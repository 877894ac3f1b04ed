import TypedList.CommandLine.Arguments

/-!
# How arguments are read

A command line that is accepted is a row of options and positional arguments, and perhaps files
behind `--`.  Each changes what has been read so far.  The first positional argument that spells a
command is the command.  Arguments without a command are read as those of a command are, so a
command can be put in front of them.

Main results:

- Theorem `Reading.addArguments_eq_ok_iff`: the arguments are read to a reading exactly if their
  rows lead there.
- Theorem `Reading.Reads.command`: reading finds the command that the arguments name.
- Theorem `readArguments_cons_name`: a command in front of arguments without one decides which parts
  are shown, and nothing else.
-/

namespace TypedList

/-- A step and what follows it succeed together. -/
theorem bind_eq_ok {ε α β : Type} {x : Except ε α} {f : α → Except ε β} {b : β} :
    x >>= f = .ok b ↔ ∃ a, x = .ok a ∧ f a = .ok b := by
  cases x with
  | error e =>
    constructor
    · intro h
      exact nomatch h
    · rintro ⟨a, h, -⟩
      exact nomatch h
  | ok a =>
    constructor
    · intro h
      exact ⟨a, rfl, h⟩
    · rintro ⟨a', h, hf⟩
      rw [Except.ok.injEq] at h
      rw [h]
      exact hf

/-! ## Reading -/

/-- The arguments begin with an option, which changes the level that it belongs to.  The given
arguments follow it. -/
inductive BeginsWithOption : List Text → (Level → Except Refusal Level) → List Text → Prop
  | format {t name : Text} {rest : List Text} : Argument.ofText t = .format →
      BeginsWithOption (t :: name :: rest) (·.setFormat name) rest
  | formatValue {t name : Text} {rest : List Text} : Argument.ofText t = .formatValue name →
      BeginsWithOption (t :: rest) (·.setFormat name) rest
  | strings {t : Text} {rest : List Text} : Argument.ofText t = .strings →
      BeginsWithOption (t :: rest) Level.setStrings rest

namespace Reading

/-- The arguments lead from one reading to another. -/
inductive Reads : Reading → List Text → Reading → Prop
  | nil {r : Reading} : Reads r [] r
  | positional {r s r' : Reading} {t name : Text} {rest : List Text} :
      Argument.ofText t = .positional name → r.positional name = .ok s → Reads s rest r' →
        Reads r (t :: rest) r'
  | separator {r r' : Reading} {t : Text} {rest : List Text} :
      Argument.ofText t = .separator → r.addFiles rest = .ok r' → Reads r (t :: rest) r'
  | option {r s r' : Reading} {change : Level → Except Refusal Level}
      {arguments rest : List Text} :
      BeginsWithOption arguments change rest → r.update change = .ok s → Reads s rest r' →
        Reads r arguments r'

variable {r r' : Reading} {change : Level → Except Refusal Level} {t : Text}
  {arguments rest : List Text}

/-- A positional argument is read before the arguments behind it. -/
theorem addArguments_positional {name : Text} (ht : Argument.ofText t = .positional name) :
    r.addArguments (t :: rest) = r.positional name >>= (·.addArguments rest) := by
  rw [addArguments.eq_def]
  simp only [ht]

/-- Behind the separator only files are read. -/
theorem addArguments_separator (ht : Argument.ofText t = .separator) :
    r.addArguments (t :: rest) = r.addFiles rest := by
  rw [addArguments.eq_def]
  simp only [ht]

/-- An option changes its level before the arguments behind it are read. -/
theorem addArguments_option (h : BeginsWithOption arguments change rest) :
    r.addArguments arguments = r.update change >>= (·.addArguments rest) := by
  rw [addArguments.eq_def]
  cases h with
  | format ht => simp only [ht]
  | formatValue ht => simp only [ht]
  | strings ht => simp only [ht]

/-- The level that the next argument belongs to. -/
def level (r : Reading) : Level :=
  match r.inner with
  | none => r.outer
  | some (_, level) => level

/-- The reading with another level for the next argument. -/
def withLevel (r : Reading) (level : Level) : Reading :=
  match r.inner with
  | none => { r with outer := level }
  | some (command, _) => { r with inner := some (command, level) }

/-- An update changes the level that the next argument belongs to, and nothing else. -/
theorem update_eq_ok_iff : r.update change = .ok r' ↔
    ∃ level, change r.level = .ok level ∧ r.withLevel level = r' := by
  have hreturn (s : Reading) : (.ok s : Except Refusal Reading) = .ok r' ↔ s = r' :=
    Iff.of_eq (Except.ok.injEq _ _)
  obtain ⟨outer, - | inner⟩ := r
  · exact bind_eq_ok.trans (exists_congr fun _ => and_congr_right fun _ => hreturn _)
  · exact bind_eq_ok.trans (exists_congr fun _ => and_congr_right fun _ => hreturn _)

/-- Where an option is accepted, so is what follows it. -/
theorem reads_of_option (hoption : BeginsWithOption arguments change rest)
    (hrest : ∀ s : Reading, s.addArguments rest = .ok r' → Reads s rest r')
    (h : r.update change >>= (·.addArguments rest) = .ok r') : Reads r arguments r' := by
  obtain ⟨s, hs, hadd⟩ := bind_eq_ok.mp h
  exact .option hoption hs (hrest s hadd)

/-- Arguments that are read to a reading lead there, step by step. -/
theorem reads_of_addArguments (h : r.addArguments arguments = .ok r') : Reads r arguments r' := by
  fun_induction addArguments r arguments with
  | case1 r =>
    cases h
    exact .nil
  | case2 r t rest name ht ih =>
    obtain ⟨s, hs, hrest⟩ := bind_eq_ok.mp h
    exact .positional ht hs (ih s hrest)
  | case3 r t rest ht => exact .separator ht h
  | case4 r t ht => exact nomatch h
  | case5 r t ht name rest ih => exact reads_of_option (.format ht) ih h
  | case6 r t rest name ht ih => exact reads_of_option (.formatValue ht) ih h
  | case7 r t rest ht ih => exact reads_of_option (.strings ht) ih h
  | case8 r t rest ht => exact nomatch h
  | case9 r t rest ht => exact nomatch h
  | case10 r t rest ht => exact nomatch h

/-- The arguments are read to a reading exactly if they lead there. -/
theorem addArguments_eq_ok_iff : r.addArguments arguments = .ok r' ↔ Reads r arguments r' := by
  constructor
  · exact reads_of_addArguments
  · intro h
    induction h with
    | nil => rfl
    | positional ht hs _ ih =>
      rw [addArguments_positional ht]
      exact bind_eq_ok.mpr ⟨_, hs, ih⟩
    | separator ht hfiles => rwa [addArguments_separator ht]
    | option hoption hs _ ih =>
      rw [addArguments_option hoption]
      exact bind_eq_ok.mpr ⟨_, hs, ih⟩

end Reading

/-! ## Naming a command -/

/-- The name of a command. -/
def Command.name : Command → Text
  | tokens => "tokens".toList
  | check => "check".toList
  | analyze => "analyze".toList

/-- The command that arguments name: the first positional argument that spells one does, unless it
stands behind `--`.  The value of an option is no positional argument. -/
def namedCommand? : List Text → Option Command
  | [] => none
  | t :: rest =>
    match Argument.ofText t with
    | .positional name => (Command.ofName? name).or (namedCommand? rest)
    | .separator => none
    | .format =>
      match rest with
      | [] => none
      | _ :: rest => namedCommand? rest
    | .formatValue _ => namedCommand? rest
    | .strings => namedCommand? rest
    | .version => namedCommand? rest
    | .help => namedCommand? rest
    | .unknownOption => namedCommand? rest

/-- A positional argument is the command if it spells one, and otherwise leaves the command to the
arguments behind it. -/
theorem namedCommand?_positional {t name : Text} {rest : List Text}
    (ht : Argument.ofText t = .positional name) :
    namedCommand? (t :: rest) = (Command.ofName? name).or (namedCommand? rest) := by
  rw [namedCommand?.eq_def]
  simp only [ht]

/-- No command stands behind the separator. -/
theorem namedCommand?_separator {t : Text} {rest : List Text}
    (ht : Argument.ofText t = .separator) : namedCommand? (t :: rest) = none := by
  rw [namedCommand?.eq_def]
  simp only [ht]

/-- An option names no command. -/
theorem namedCommand?_option {arguments rest : List Text} {change : Level → Except Refusal Level}
    (h : BeginsWithOption arguments change rest) :
    namedCommand? arguments = namedCommand? rest := by
  rw [namedCommand?.eq_def]
  cases h with
  | format ht => simp only [ht]
  | formatValue ht => simp only [ht]
  | strings ht => simp only [ht]

namespace Reading

variable {r r' : Reading} {change : Level → Except Refusal Level} {t : Text}
  {arguments : List Text}

/-- The command that has been read. -/
def command (r : Reading) : Option Command :=
  r.inner.map Prod.fst

/-- Changing a level changes no command. -/
theorem command_update (h : r.update change = .ok r') : r'.command = r.command := by
  obtain ⟨level, -, rfl⟩ := update_eq_ok_iff.mp h
  obtain ⟨outer, - | inner⟩ := r <;> rfl

/-- In front of the command a name that is none is a file, unless it asks for help. -/
theorem positional_eq_ok_iff (hinner : r.inner = none) (hname : Command.ofName? t = none) :
    r.positional t = .ok r' ↔ t ≠ "help".toList ∧ r.update (·.setFile t) = .ok r' := by
  simp only [positional, hinner, hname]
  split
  · rename_i hhelp
    constructor
    · intro h
      exact nomatch h
    · intro h
      exact absurd hhelp h.1
  · rename_i hhelp
    exact (and_iff_right hhelp).symm

/-- A positional argument becomes the command if it spells one and there is none yet. -/
theorem command_positional (h : r.positional t = .ok r') :
    r'.command = r.command.or (Command.ofName? t) := by
  obtain ⟨outer, inner⟩ := r
  cases inner with
  | none =>
    cases hname : Command.ofName? t with
    | none => exact command_update ((positional_eq_ok_iff rfl hname).mp h).2
    | some command =>
      simp only [positional, hname] at h
      cases h
      rfl
  | some inner =>
    simp only [positional] at h
    exact command_update h

/-- Files behind the separator leave the command as it is. -/
theorem command_addFiles (h : r.addFiles arguments = .ok r') : r'.command = r.command := by
  induction arguments generalizing r with
  | nil =>
    cases h
    rfl
  | cons t arguments ih =>
    obtain ⟨s, hs, hrest⟩ := bind_eq_ok.mp h
    exact (ih hrest).trans (command_update hs)

/-- Reading finds the command that the arguments name, unless it has found one before. -/
theorem Reads.command (h : Reads r arguments r') :
    r'.command = r.command.or (namedCommand? arguments) := by
  induction h with
  | nil => exact Option.or_none.symm
  | positional ht hs _ ih =>
    rw [ih, command_positional hs, namedCommand?_positional ht, Option.or_assoc]
  | separator ht hfiles =>
    rw [command_addFiles hfiles, namedCommand?_separator ht, Option.or_none]
  | option hoption hs _ ih => rw [ih, command_update hs, namedCommand?_option hoption]

/-! ## Putting a command in front -/

/-- The reading with its arguments behind a command. -/
def behind (command : Command) (r : Reading) : Reading :=
  ⟨.empty, some (command, r.outer)⟩

variable {front : Command}

/-- A level takes the same changes behind a command as in front of it. -/
theorem update_behind (hr : r.command = none) (h : r.update change = .ok r') :
    (r.behind front).update change = .ok (r'.behind front) := by
  obtain ⟨outer, inner⟩ := r
  obtain rfl : inner = none := Option.map_eq_none_iff.mp hr
  obtain ⟨level, hlevel, hr'⟩ := bind_eq_ok.mp h
  cases hr'
  exact bind_eq_ok.mpr ⟨level, hlevel, rfl⟩

/-- Files are read behind a command as they are without it. -/
theorem addFiles_behind (hr : r.command = none) (h : r.addFiles arguments = .ok r') :
    (r.behind front).addFiles arguments = .ok (r'.behind front) := by
  induction arguments generalizing r with
  | nil =>
    cases h
    rfl
  | cons t arguments ih =>
    obtain ⟨s, hs, hrest⟩ := bind_eq_ok.mp h
    exact bind_eq_ok.mpr ⟨_, update_behind hr hs, ih ((command_update hs).trans hr) hrest⟩

/-- A positional argument that is no command is a file, also behind a command. -/
theorem positional_behind (hr : r.command = none) (hname : Command.ofName? t = none)
    (h : r.positional t = .ok r') :
    (r.behind front).positional t = .ok (r'.behind front) := by
  have hinner : r.inner = none := Option.map_eq_none_iff.mp hr
  exact update_behind hr ((positional_eq_ok_iff hinner hname).mp h).2

/-- Arguments that name no command are read behind one as they are without it. -/
theorem Reads.behind (h : Reads r arguments r') (hr : r.command = none)
    (hnone : namedCommand? arguments = none) :
    Reads (r.behind front) arguments (r'.behind front) := by
  induction h with
  | nil => exact .nil
  | positional ht hs _ ih =>
    rw [namedCommand?_positional ht, Option.or_eq_none_iff] at hnone
    have hcommand := command_positional hs
    rw [hr, hnone.1] at hcommand
    exact .positional ht (positional_behind hr hnone.1 hs) (ih hcommand hnone.2)
  | separator ht hfiles => exact .separator ht (addFiles_behind hr hfiles)
  | option hoption hs _ ih =>
    rw [namedCommand?_option hoption] at hnone
    exact .option hoption (update_behind hr hs) (ih ((command_update hs).trans hr) hnone)

/-- Behind a command the same is asked for, except for the parts that the command shows. -/
theorem request_behind (hr : r.command = none) :
    (r.behind front).request = { r.request with parts := front.parts } := by
  obtain ⟨outer, inner⟩ := r
  obtain rfl : inner = none := Option.map_eq_none_iff.mp hr
  simp [behind, request, Level.empty]

end Reading

/-! ## Whole command lines -/

variable {arguments : List Text} {request : Request}

/-- A command line is read to a request exactly if its arguments lead to a reading that asks for
it. -/
theorem readArguments_eq_ok_iff : readArguments arguments = .ok request ↔
    ∃ r, Reading.Reads .empty arguments r ∧ r.request = request := by
  rw [readArguments]
  constructor
  · intro h
    cases hread : Reading.empty.addArguments arguments with
    | error refusal =>
      rw [hread] at h
      exact nomatch h
    | ok r =>
      rw [hread] at h
      exact ⟨r, Reading.reads_of_addArguments hread, Except.ok.inj h⟩
  · rintro ⟨r, hreads, rfl⟩
    rw [Reading.addArguments_eq_ok_iff.mpr hreads]
    rfl

/-- What is shown is what the command shows; without a command it is both parts. -/
theorem parts_of_readArguments (h : readArguments arguments = .ok request) :
    request.parts = ((namedCommand? arguments).getD .analyze).parts := by
  obtain ⟨r, hreads, rfl⟩ := readArguments_eq_ok_iff.mp h
  have hcommand : r.command = namedCommand? arguments := hreads.command
  rw [← hcommand]
  rfl

/-- A command in front of arguments without one decides which parts are shown, and nothing else. -/
theorem readArguments_cons_name (h : readArguments arguments = .ok request)
    (hnone : namedCommand? arguments = none) (front : Command) :
    readArguments (front.name :: arguments) = .ok { request with parts := front.parts } := by
  obtain ⟨r, hreads, rfl⟩ := readArguments_eq_ok_iff.mp h
  have hcommand : r.command = none := hreads.command.trans hnone
  have hspelling : Argument.ofText front.name = .positional front.name := by
    cases front <;> rfl
  have hfront : Reading.empty.positional front.name = .ok (Reading.empty.behind front) := by
    cases front <;> rfl
  exact readArguments_eq_ok_iff.mpr
    ⟨r.behind front, .positional hspelling hfront (hreads.behind rfl hnone),
      Reading.request_behind hcommand⟩

end TypedList
