import TypedList.Proofs.Arguments

/-!
# Moving options

An option means the same on both sides of the command.  So a command line with an option that is
given once reads as the same command line without it, apart from what the option sets, wherever the
option stands.

Main results:

- Theorem `Reading.addArguments_append`: arguments behind which an option may stand are read first,
  and then the arguments behind them.
- Theorem `Reading.agree_addArguments`: two readings that differ in one setting differ in nothing
  else after any arguments that do not give it.
- Theorem `readArguments_insert`: an option that is given once sets what it sets in what is asked
  for, wherever it stands.
-/

namespace TypedList

/-! ## Settings -/

/-- The name of a format. -/
def Format.name : Format → Text
  | text => "text".toList
  | json => "json".toList

/-- What an option sets that may stand on both sides of the command. -/
inductive Setting
  | strings
  | format (format : Format)

namespace Setting

/-- The arguments give the setting. -/
inductive GivenBy : Setting → List Text → Prop
  | strings : GivenBy strings ["--strings".toList]
  | format (f : Format) : GivenBy (format f) ["--format".toList, f.name]
  | formatValue (f : Format) : GivenBy (format f) ["--format=".toList ++ f.name]

/-- The argument is an option for the setting, with any value. -/
def IsOption : Setting → Text → Prop
  | strings, t => t = "--strings".toList
  | format _, t => t = "--format".toList ∨ "--format=".toList <+: t

instance (o : Setting) (t : Text) : Decidable (o.IsOption t) :=
  match o with
  | strings => inferInstanceAs (Decidable (t = _))
  | format _ => inferInstanceAs (Decidable (_ ∨ _))

/-- No option for the setting stands among the arguments in front of `--`. -/
def NotGivenIn (o : Setting) (arguments : List Text) : Prop :=
  ∀ t ∈ arguments.takeWhile (· ≠ "--".toList), ¬ o.IsOption t

instance (o : Setting) (arguments : List Text) : Decidable (o.NotGivenIn arguments) :=
  inferInstanceAs (Decidable (∀ t ∈ _, ¬ o.IsOption t))

end Setting

/-- The request with the setting. -/
def Request.set (o : Setting) (r : Request) : Request :=
  match o with
  | .strings => { r with mode := .literal }
  | .format f => { r with format := f }

/-- An option may stand behind the arguments: there is no `--` among them, and they do not break off
between `--format` and its value. -/
structure AdmitsOption (arguments : List Text) : Prop where
  separator_notMem : "--".toList ∉ arguments
  getLast?_ne : arguments.getLast? ≠ some "--format".toList

/-! ## Arguments in two parts -/

variable {t name : Text} {rest front back given : List Text}

/-- Arguments that admit an option still do without the first of them. -/
theorem AdmitsOption.tail (h : AdmitsOption (t :: rest)) : AdmitsOption rest := by
  refine ⟨fun hmem => h.separator_notMem (List.mem_cons_of_mem t hmem), ?_⟩
  intro hlast
  cases rest with
  | nil => exact nomatch hlast
  | cons u rest => exact h.getLast?_ne (List.getLast?_cons_cons.trans hlast)

/-- In front of `--` no argument is an option for a setting that is not given. -/
theorem Setting.NotGivenIn.cons {o : Setting} (h : o.NotGivenIn (t :: rest))
    (ht : Argument.ofText t ≠ .separator) : ¬ o.IsOption t ∧ o.NotGivenIn rest := by
  have hne : t ≠ "--".toList := by
    rintro rfl
    exact ht rfl
  have htake : (t :: rest).takeWhile (· ≠ "--".toList) =
      t :: rest.takeWhile (· ≠ "--".toList) := List.takeWhile_cons_of_pos (decide_eq_true hne)
  rw [NotGivenIn, htake] at h
  exact List.forall_mem_cons.mp h

namespace Reading

variable {r : Reading}

/-- The last argument cannot be an option without its value. -/
theorem addArguments_format_nil (ht : Argument.ofText t = .format) :
    r.addArguments [t] = .error .usage := by
  rw [addArguments.eq_def]
  simp only [ht]

/-- Asking for the version ends the reading. -/
theorem addArguments_version (ht : Argument.ofText t = .version) :
    r.addArguments (t :: rest) = .error r.version := by
  rw [addArguments.eq_def]
  simp only [ht]

/-- So does asking for help. -/
theorem addArguments_help (ht : Argument.ofText t = .help) :
    r.addArguments (t :: rest) = .error .help := by
  rw [addArguments.eq_def]
  simp only [ht]

/-- So does an option that there is not. -/
theorem addArguments_unknownOption (ht : Argument.ofText t = .unknownOption) :
    r.addArguments (t :: rest) = .error .usage := by
  rw [addArguments.eq_def]
  simp only [ht]

/-- Arguments behind which an option may stand are read first, and then the arguments behind
them. -/
theorem addArguments_append (h : AdmitsOption front) (r : Reading) (back : List Text) :
    r.addArguments (front ++ back) = r.addArguments front >>= (·.addArguments back) := by
  fun_induction addArguments r front with
  | case1 r => rfl
  | case2 r t rest name ht ih =>
    rw [List.cons_append, addArguments_positional ht, bind_assoc]
    exact bind_congr fun s => ih s h.tail
  | case3 r t rest ht =>
    obtain rfl : t = "--".toList := Argument.spelledBy_of_ofText ht
    exact absurd List.mem_cons_self h.separator_notMem
  | case4 r t ht =>
    obtain rfl : t = "--format".toList := Argument.spelledBy_of_ofText ht
    exact absurd rfl h.getLast?_ne
  | case5 r t ht name rest ih =>
    rw [List.cons_append, List.cons_append, addArguments_option (.format ht), bind_assoc]
    exact bind_congr fun s => ih s h.tail.tail
  | case6 r t rest name ht ih =>
    rw [List.cons_append, addArguments_option (.formatValue ht), bind_assoc]
    exact bind_congr fun s => ih s h.tail
  | case7 r t rest ht ih =>
    rw [List.cons_append, addArguments_option (.strings ht), bind_assoc]
    exact bind_congr fun s => ih s h.tail
  | case8 r t rest ht =>
    rw [List.cons_append, addArguments_version ht]
    rfl
  | case9 r t rest ht =>
    rw [List.cons_append, addArguments_help ht]
    rfl
  | case10 r t rest ht =>
    rw [List.cons_append, addArguments_unknownOption ht]
    rfl

end Reading

/-! ## Levels with and without a setting -/

namespace Level

variable {o : Setting} {level : Level} {change : Level → Except Refusal Level}

/-- The level with the setting. -/
def set (o : Setting) (level : Level) : Level :=
  match o with
  | .strings => { level with strings := true }
  | .format f => { level with format := some f }

/-- The setting is not given on the level. -/
def Lacks (o : Setting) (level : Level) : Prop :=
  match o with
  | .strings => level.strings = false
  | .format _ => level.format = none

/-- The change neither gives the setting nor asks for it. -/
structure Independent (o : Setting) (change : Level → Except Refusal Level) : Prop where
  lacks : ∀ {level level' : Level}, change level = .ok level' → level.Lacks o → level'.Lacks o
  commutes : ∀ level : Level, change (level.set o) = (change level).map (set o)

/-- A file is independent of both settings. -/
theorem independent_setFile (o : Setting) (name : Text) : Independent o (·.setFile name) := by
  constructor
  · intro level level' h hlacks
    simp only [setFile] at h
    split at h
    · exact nomatch h
    · cases h
      cases o <;> exact hlacks
  · intro level
    have hfile : (level.set o).file = level.file := by cases o <;> rfl
    simp only [setFile, hfile]
    split
    · rfl
    · cases o <;> rfl

/-- Asking for strings is independent of the format. -/
theorem independent_setStrings (f : Format) : Independent (.format f) setStrings := by
  constructor
  · intro level level' h hlacks
    simp only [setStrings] at h
    split at h
    · exact nomatch h
    · cases h
      exact hlacks
  · rintro ⟨format, strings, file⟩
    cases strings <;> rfl

/-- The format is independent of asking for strings. -/
theorem independent_setFormat (name : Text) : Independent .strings (·.setFormat name) := by
  constructor
  · intro level level' h hlacks
    simp only [setFormat] at h
    split at h
    · cases h
      exact hlacks
    · exact nomatch h
  · rintro ⟨format, strings, file⟩
    simp only [setFormat, set]
    cases format <;> cases Format.ofName? name <;> rfl

end Level

/-! ## Readings with and without a setting -/

/-- Two attempts fail for the same reason or have related results. -/
inductive Agree {α β : Type} (R : α → β → Prop) : Except Refusal α → Except Refusal β → Prop
  | error (e : Refusal) : Agree R (.error e) (.error e)
  | ok {a : α} {b : β} : R a b → Agree R (.ok a) (.ok b)

/-- What follows two attempts that agree needs to agree for related results only. -/
theorem Agree.bind {α β γ δ : Type} {R : α → β → Prop} {S : γ → δ → Prop} {x : Except Refusal α}
    {y : Except Refusal β} {f : α → Except Refusal γ} {g : β → Except Refusal δ} (h : Agree R x y)
    (hfg : ∀ a b, x = .ok a → R a b → Agree S (f a) (g b)) : Agree S (x >>= f) (y >>= g) := by
  cases h with
  | error e => exact .error e
  | ok hab => exact hfg _ _ rfl hab

namespace Reading

variable {o : Setting} {r s : Reading} {change : Level → Except Refusal Level}

/-- The setting is given on neither level. -/
def Lacks (o : Setting) (r : Reading) : Prop :=
  r.outer.Lacks o ∧ ∀ inner ∈ r.inner, inner.2.Lacks o

/-- In front of the command only the outer level counts. -/
theorem lacks_none {outer : Level} : Lacks o ⟨outer, none⟩ ↔ outer.Lacks o := by
  simp [Lacks]

/-- Behind it both levels do. -/
theorem lacks_some {outer level : Level} {command : Command} :
    Lacks o ⟨outer, some (command, level)⟩ ↔ outer.Lacks o ∧ level.Lacks o := by
  simp [Lacks]

/-- The first reading lacks the setting, and the second is the same with it on one level. -/
inductive Adds (o : Setting) : Reading → Reading → Prop
  | outer {level : Level} {inner : Option (Command × Level)} : Lacks o ⟨level, inner⟩ →
      Adds o ⟨level, inner⟩ ⟨level.set o, inner⟩
  | inner {outer level : Level} {command : Command} : Lacks o ⟨outer, some (command, level)⟩ →
      Adds o ⟨outer, some (command, level)⟩ ⟨outer, some (command, level.set o)⟩

/-- What a setting is added to lacks it. -/
theorem Adds.lacks (h : Adds o r s) : r.Lacks o := by
  cases h with
  | outer hlacks => exact hlacks
  | inner hlacks => exact hlacks

/-- Adding a setting adds no command. -/
theorem Adds.isNone_eq (h : Adds o r s) : r.inner.isNone = s.inner.isNone := by
  cases h <;> rfl

/-- A change that is independent of the setting goes on with a level that lacks it and with the same
level with it alike. -/
theorem agree_change (hchange : Level.Independent o change) {level : Level}
    (hlacks : level.Lacks o) :
    Agree (fun a b => a.Lacks o ∧ b = a.set o) (change level) (change (level.set o)) := by
  rw [hchange.commutes]
  cases h : change level with
  | error e => exact .error e
  | ok level' => exact .ok ⟨hchange.lacks h hlacks, rfl⟩

/-- A change on the other level goes on as it would without the setting. -/
theorem agree_change_self (hchange : Level.Independent o change) {level : Level}
    (hlacks : level.Lacks o) :
    Agree (fun a b => a.Lacks o ∧ b = a) (change level) (change level) := by
  cases h : change level with
  | error e => exact .error e
  | ok level' => exact .ok ⟨hchange.lacks h hlacks, rfl⟩

/-- The level that is changed may be the one with the setting or the other. -/
theorem agree_update (h : Adds o r s) (hchange : Level.Independent o change) :
    Agree (Adds o) (r.update change) (s.update change) := by
  cases h with
  | @outer outer inner hlacks =>
    cases inner with
    | none =>
      refine (agree_change hchange (lacks_none.mp hlacks)).bind ?_
      rintro a b - ⟨ha, rfl⟩
      exact .ok (.outer (lacks_none.mpr ha))
    | some inner =>
      obtain ⟨houter, hinner⟩ := lacks_some.mp hlacks
      refine (agree_change_self hchange hinner).bind ?_
      rintro a b - ⟨ha, rfl⟩
      exact .ok (.outer (lacks_some.mpr ⟨houter, ha⟩))
  | inner hlacks =>
    obtain ⟨houter, hinner⟩ := lacks_some.mp hlacks
    refine (agree_change hchange hinner).bind ?_
    rintro a b - ⟨ha, rfl⟩
    exact .ok (.inner (lacks_some.mpr ⟨houter, ha⟩))

/-- A new level lacks every setting. -/
theorem lacks_empty (o : Setting) : Level.empty.Lacks o := by
  cases o <;> rfl

/-- A positional argument is read alike with the setting and without it. -/
theorem agree_positional (h : Adds o r s) (t : Text) :
    Agree (Adds o) (r.positional t) (s.positional t) := by
  have hfile := agree_update h (Level.independent_setFile o t)
  cases h with
  | @outer outer inner hlacks =>
    cases inner with
    | none =>
      cases hname : Command.ofName? t with
      | none =>
        simp only [positional, hname]
        split
        · exact .error _
        · exact hfile
      | some command =>
        simp only [positional, hname]
        exact .ok (.outer (lacks_some.mpr ⟨lacks_none.mp hlacks, lacks_empty o⟩))
    | some inner => exact hfile
  | inner hlacks => exact hfile

/-- So are files behind the separator. -/
theorem agree_addFiles (h : Adds o r s) (names : List Text) :
    Agree (Adds o) (r.addFiles names) (s.addFiles names) := by
  induction names generalizing r s with
  | nil => exact .ok h
  | cons t names ih =>
    exact (agree_update h (Level.independent_setFile o t)).bind fun _ _ _ hadds => ih hadds

/-- An option for another setting makes a change that is independent of the setting. -/
theorem independent_of_option {arguments rest : List Text}
    (hoption : BeginsWithOption arguments change rest) (hnot : o.NotGivenIn arguments) :
    Level.Independent o change := by
  cases hoption with
  | @format t name rest ht =>
    obtain ⟨hother, -⟩ := hnot.cons (by simp [ht])
    cases o with
    | strings => exact Level.independent_setFormat name
    | format f => exact absurd (.inl (Argument.spelledBy_of_ofText ht)) hother
  | @formatValue t name rest ht =>
    obtain ⟨hother, -⟩ := hnot.cons (by simp [ht])
    cases o with
    | strings => exact Level.independent_setFormat name
    | format f => exact absurd (.inr (Argument.spelledBy_of_ofText ht)) hother
  | @strings t rest ht =>
    obtain ⟨hother, -⟩ := hnot.cons (by simp [ht])
    cases o with
    | strings => exact absurd (Argument.spelledBy_of_ofText ht) hother
    | format f => exact Level.independent_setStrings f

/-- The name of a format is not `--`. -/
theorem ofText_ne_separator {name : Text} (h : r.update (·.setFormat name) = .ok s) :
    Argument.ofText name ≠ .separator := by
  intro hseparator
  obtain rfl : name = "--".toList := Argument.spelledBy_of_ofText hseparator
  obtain ⟨level, hlevel, -⟩ := update_eq_ok_iff.mp h
  have hnone : Format.ofName? "--".toList = none := rfl
  rw [Level.setFormat, hnone] at hlevel
  cases hformat : r.level.format <;> simp [hformat] at hlevel

/-- Two readings that differ in one setting differ in nothing else after any arguments that do not
give it. -/
theorem agree_addArguments {arguments : List Text} (hnot : o.NotGivenIn arguments)
    (h : Adds o r s) : Agree (Adds o) (r.addArguments arguments) (s.addArguments arguments) := by
  fun_induction addArguments r arguments generalizing s with
  | case1 r => exact .ok h
  | case2 r t rest name ht ih =>
    rw [addArguments_positional ht]
    have hrest := (hnot.cons (by simp [ht])).2
    exact (agree_positional h name).bind fun a b _ hadds => ih a hrest hadds
  | case3 r t rest ht =>
    rw [addArguments_separator ht]
    exact agree_addFiles h rest
  | case4 r t ht =>
    rw [addArguments_format_nil ht]
    exact .error _
  | case5 r t ht name rest ih =>
    have hchange := independent_of_option (.format ht) hnot
    rw [addArguments_option (.format ht)]
    refine (agree_update h hchange).bind fun a b ha hadds => ih a ?_ hadds
    exact ((hnot.cons (by simp [ht])).2.cons (ofText_ne_separator ha)).2
  | case6 r t rest name ht ih =>
    have hchange := independent_of_option (.formatValue ht) hnot
    rw [addArguments_option (.formatValue ht)]
    have hrest := (hnot.cons (by simp [ht])).2
    exact (agree_update h hchange).bind fun a b _ hadds => ih a hrest hadds
  | case7 r t rest ht ih =>
    have hchange := independent_of_option (.strings ht) hnot
    rw [addArguments_option (.strings ht)]
    have hrest := (hnot.cons (by simp [ht])).2
    exact (agree_update h hchange).bind fun a b _ hadds => ih a hrest hadds
  | case8 r t rest ht =>
    rw [addArguments_version ht, version, version, h.isNone_eq]
    exact .error _
  | case9 r t rest ht =>
    rw [addArguments_help ht]
    exact .error _
  | case10 r t rest ht =>
    rw [addArguments_unknownOption ht]
    exact .error _

/-- Arguments that do not give a setting leave it out. -/
theorem lacks_of_addArguments {arguments : List Text} (hnot : o.NotGivenIn arguments)
    (hr : r.Lacks o) (h : r.addArguments arguments = .ok s) : s.Lacks o := by
  have hagree := agree_addArguments hnot (Adds.outer hr)
  rw [h] at hagree
  generalize (Reading.mk (r.outer.set o) r.inner).addArguments arguments = x at hagree
  cases hagree with
  | ok hadds => exact hadds.lacks

/-! ## Giving the setting -/

/-- The arguments that give a setting are an option that sets it on every level without it. -/
theorem exists_change {given : List Text} (hgiven : o.GivenBy given) (back : List Text) :
    ∃ change, BeginsWithOption (given ++ back) change back ∧
      ∀ level : Level, level.Lacks o → change level = .ok (level.set o) := by
  cases hgiven with
  | strings =>
    refine ⟨Level.setStrings, .strings rfl, ?_⟩
    rintro ⟨format, strings, file⟩ rfl
    rfl
  | format f =>
    refine ⟨(·.setFormat f.name), .format rfl, ?_⟩
    rintro ⟨format, strings, file⟩ rfl
    cases f <;> rfl
  | formatValue f =>
    have ht : Argument.ofText ("--format=".toList ++ f.name) = .formatValue f.name := by
      cases f <;> rfl
    refine ⟨(·.setFormat f.name), .formatValue ht, ?_⟩
    rintro ⟨format, strings, file⟩ rfl
    cases f <;> rfl

/-- An option for a setting that a reading lacks adds it. -/
theorem exists_adds {given : List Text} (hgiven : o.GivenBy given) (hr : r.Lacks o)
    (back : List Text) :
    ∃ s, Adds o r s ∧ r.addArguments (given ++ back) = s.addArguments back := by
  obtain ⟨change, hoption, hchange⟩ := exists_change hgiven back
  rw [addArguments_option hoption]
  obtain ⟨outer, inner⟩ := r
  cases inner with
  | none =>
    refine ⟨_, .outer hr, ?_⟩
    simp only [update, hchange outer (lacks_none.mp hr)]
    rfl
  | some inner =>
    refine ⟨_, .inner hr, ?_⟩
    simp only [update, hchange inner.2 (lacks_some.mp hr).2]
    rfl

/-- With the setting on one of its levels the reading asks for what it asks for without it, and for
the setting. -/
theorem Adds.request_eq (h : Adds o r s) : s.request = r.request.set o := by
  cases h with
  | @outer outer inner hlacks =>
    cases o with
    | strings => simp [request, Level.set, Request.set]
    | format f =>
      cases inner with
      | none => rfl
      | some inner =>
        have hinner : inner.2.format = none := (lacks_some.mp hlacks).2
        simp [request, Level.set, Request.set, hinner]
  | inner hlacks =>
    cases o with
    | strings => rfl
    | format f => rfl

end Reading

/-- Arguments without the setting are read alike with an option for it at any place. -/
theorem agree_insert {o : Setting} (hgiven : o.GivenBy given) (hfront : AdmitsOption front)
    (hnot : o.NotGivenIn (front ++ back)) :
    Agree (Reading.Adds o) (Reading.empty.addArguments (front ++ back))
      (Reading.empty.addArguments (front ++ given ++ back)) := by
  have htake : (front ++ back).takeWhile (· ≠ "--".toList) =
      front ++ back.takeWhile (· ≠ "--".toList) := by
    refine List.takeWhile_append_of_pos fun t ht => decide_eq_true ?_
    rintro rfl
    exact hfront.separator_notMem ht
  rw [Setting.NotGivenIn, htake, List.forall_mem_append] at hnot
  have hnotFront : o.NotGivenIn front := fun t ht =>
    hnot.1 t ((List.takeWhile_sublist _).mem ht)
  rw [List.append_assoc, Reading.addArguments_append hfront, Reading.addArguments_append hfront]
  cases h : Reading.empty.addArguments front with
  | error e => exact .error e
  | ok r =>
    have hempty : Reading.empty.Lacks o := Reading.lacks_none.mpr (Reading.lacks_empty o)
    have hlacks := Reading.lacks_of_addArguments hnotFront hempty h
    obtain ⟨s, hadds, hs⟩ := Reading.exists_adds hgiven hlacks back
    change Agree (Reading.Adds o) (r.addArguments back) (r.addArguments (given ++ back))
    rw [hs]
    exact Reading.agree_addArguments hnot.2 hadds

/-- An option that is given once sets what it sets in what is asked for, wherever it stands. -/
theorem readArguments_insert {o : Setting} (hgiven : o.GivenBy given) (hfront : AdmitsOption front)
    (hnot : o.NotGivenIn (front ++ back)) :
    readArguments (front ++ given ++ back) =
      (readArguments (front ++ back)).map (Request.set o) := by
  have hagree := agree_insert hgiven hfront hnot
  rw [readArguments, readArguments]
  generalize Reading.empty.addArguments (front ++ back) = without at hagree ⊢
  generalize Reading.empty.addArguments (front ++ given ++ back) = whole at hagree ⊢
  cases hagree with
  | error e => rfl
  | ok hadds => exact congrArg Except.ok hadds.request_eq

end TypedList
