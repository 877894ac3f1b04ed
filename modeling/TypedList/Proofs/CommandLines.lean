import TypedList.Proofs.Answers
import TypedList.Proofs.Rearrangement

/-!
# Equivalent command lines

Two command lines that ask for the same are answered alike.  Where an option stands does not matter,
and neither does on which side of the command a file stands that is the only one.  Of two files the
one behind the command is read.

Main results:

- Theorem `Reading.Reads.gains`: reading finds the files that the arguments name.
- Theorem `source_of_readArguments`: the source is the file behind the command, or else the one in
  front of it, or else standard input.
- Theorem `answers_of_equivalent_lines`: command lines that differ in the place of an option, or in
  a file that is not read, have the same answers.
-/

namespace TypedList

/-! ## The file that is read -/

/-- The sides of the command. -/
inductive Side
  | outer
  | inner
deriving DecidableEq

/-- The files that arguments on the given side of the command and behind it name, each with its
side.  The value of an option is no file, and neither is the first positional argument that spells
a command, unless it stands behind `--`. -/
def namedFiles : Side → List Text → List (Side × Text)
  | _, [] => []
  | side, t :: rest =>
    match Argument.ofText t with
    | .positional name =>
      match side, Command.ofName? name with
      | .outer, some _ => namedFiles .inner rest
      | _, _ => (side, name) :: namedFiles side rest
    | .separator => rest.map fun name => (side, name)
    | .format =>
      match rest with
      | [] => []
      | _ :: rest => namedFiles side rest
    | .formatValue _ => namedFiles side rest
    | .strings => namedFiles side rest
    | .version => namedFiles side rest
    | .help => namedFiles side rest
    | .unknownOption => namedFiles side rest

/-- The file that a command line is about: the one behind the command, or else the one in front of
it. -/
def chosenFile? (arguments : List Text) : Option Text :=
  let files := namedFiles .outer arguments
  (files.lookup .inner).or (files.lookup .outer)

namespace Reading

/-- The side that the next argument stands on. -/
def side (r : Reading) : Side :=
  if r.inner.isNone then .outer else .inner

/-- The file that has been read on a side. -/
def file (r : Reading) : Side → Option Text
  | .outer => r.outer.file
  | .inner => r.inner.bind fun (_, level) => level.file

end Reading

variable {side : Side} {t name : Text} {arguments rest : List Text}
  {change : Level → Except Refusal Level}

/-- Behind the command files stand on its inner side. -/
theorem namedFiles_command {command : Command} (ht : Argument.ofText t = .positional name)
    (hname : Command.ofName? name = some command) :
    namedFiles .outer (t :: rest) = namedFiles .inner rest := by
  rw [namedFiles.eq_def]
  simp only [ht, hname]

/-- Any other positional argument is a file. -/
theorem namedFiles_file (ht : Argument.ofText t = .positional name)
    (hname : side = .outer → Command.ofName? name = none) :
    namedFiles side (t :: rest) = (side, name) :: namedFiles side rest := by
  rw [namedFiles.eq_def]
  cases side with
  | outer => simp only [ht, hname rfl]
  | inner => simp only [ht]

/-- Behind the separator all arguments are files. -/
theorem namedFiles_separator (ht : Argument.ofText t = .separator) :
    namedFiles side (t :: rest) = rest.map fun name => (side, name) := by
  rw [namedFiles.eq_def]
  simp only [ht]

/-- An option names no file. -/
theorem namedFiles_option (h : BeginsWithOption arguments change rest) :
    namedFiles side arguments = namedFiles side rest := by
  rw [namedFiles.eq_def]
  cases h with
  | format ht => simp only [ht]
  | formatValue ht => simp only [ht]
  | strings ht => simp only [ht]

namespace Reading

variable {r s r' : Reading} {names : List Text}

/-- Changing a level does not change sides. -/
theorem side_withLevel (r : Reading) (level : Level) : (r.withLevel level).side = r.side := by
  obtain ⟨outer, - | inner⟩ := r <;> rfl

/-- The side that reading has come to has the file of the current level. -/
theorem file_side (r : Reading) : r.file r.side = r.level.file := by
  obtain ⟨outer, - | inner⟩ := r <;> rfl

/-- A new level brings its file to the current side. -/
theorem file_withLevel (r : Reading) (level : Level) :
    (r.withLevel level).file r.side = level.file := by
  obtain ⟨outer, - | inner⟩ := r <;> rfl

/-- It leaves the file on the other side as it is. -/
theorem file_withLevel_of_ne {level : Level} (h : side ≠ r.side) :
    (r.withLevel level).file side = r.file side := by
  obtain ⟨outer, - | inner⟩ := r
  · cases side with
    | outer => exact absurd rfl h
    | inner => rfl
  · cases side with
    | outer => rfl
    | inner => exact absurd rfl h

/-- The second reading is the first with the files on their sides, as far as these had none. -/
def Gains (files : List (Side × Text)) (r s : Reading) : Prop :=
  ∀ side, s.file side = (r.file side).or (files.lookup side)

/-- Where the files stay the same none has been gained. -/
theorem gains_nil (h : s.file = r.file) : Gains [] r s := by
  intro side
  rw [h]
  exact Option.or_none.symm

/-- Files that are gained later come behind those gained before. -/
theorem Gains.trans {files files' : List (Side × Text)} (h : Gains files r s)
    (h' : Gains files' s r') : Gains (files ++ files') r r' := by
  intro side
  rw [h' side, h side, List.lookup_append, Option.or_assoc]

/-- A change that puts a file on its level, or none, puts it on the side that the reading has come
to. -/
theorem gains_update (added : Option Text)
    (hchange : ∀ level level', change level = .ok level' → level'.file = level.file.or added)
    (h : r.update change = .ok s) :
    s.side = r.side ∧ Gains (added.toList.map fun name => (r.side, name)) r s := by
  obtain ⟨level, hlevel, rfl⟩ := update_eq_ok_iff.mp h
  refine ⟨side_withLevel r level, ?_⟩
  intro side
  by_cases hside : side = r.side
  · rw [hside, file_withLevel, hchange _ _ hlevel, file_side]
    cases added <;> simp
  · rw [file_withLevel_of_ne hside]
    have hother : (side == r.side) = false := beq_false_of_ne hside
    cases added <;> simp [List.lookup_cons, hother]

/-- A file is put on the side that the reading has come to. -/
theorem gains_file (h : r.update (·.setFile t) = .ok s) :
    s.side = r.side ∧ Gains [(r.side, t)] r s := by
  refine gains_update (some t) ?_ h
  intro level level' hlevel
  simp only [Level.setFile] at hlevel
  split at hlevel <;> rename_i hfile
  · cases hlevel
  · cases hlevel
    rw [Bool.or_eq_true, not_or] at hfile
    rw [Option.not_isSome_iff_eq_none.mp hfile.2]
    rfl

/-- Setting the format keeps the file of the level. -/
theorem file_setFormat {level level' : Level} (h : level.setFormat name = .ok level') :
    level'.file = level.file := by
  simp only [Level.setFormat] at h
  split at h
  · cases h
    rfl
  · cases h

/-- So does asking for strings. -/
theorem file_setStrings {level level' : Level} (h : level.setStrings = .ok level') :
    level'.file = level.file := by
  simp only [Level.setStrings] at h
  split at h
  · cases h
  · cases h
    rfl

/-- An option changes neither files nor sides. -/
theorem gains_option (hoption : BeginsWithOption arguments change rest)
    (h : r.update change = .ok s) : s.side = r.side ∧ Gains [] r s := by
  refine gains_update none ?_ h
  intro level level' hlevel
  rw [Option.or_none]
  cases hoption with
  | format ht => exact file_setFormat hlevel
  | formatValue ht => exact file_setFormat hlevel
  | strings ht => exact file_setStrings hlevel

/-- Behind `--` every argument is a file. -/
theorem gains_addFiles (h : r.addFiles names = .ok s) :
    Gains (names.map fun name => (r.side, name)) r s := by
  induction names generalizing r with
  | nil =>
    cases h
    exact gains_nil rfl
  | cons t names ih =>
    obtain ⟨q, hq, hrest⟩ := bind_eq_ok.mp h
    obtain ⟨hside, hgains⟩ := gains_file hq
    have hnames := ih hrest
    rw [hside] at hnames
    exact hgains.trans hnames

/-- A positional argument is a file or the command. -/
theorem gains_positional (ht : Argument.ofText t = .positional name)
    (h : r.positional name = .ok s) :
    ∃ files, namedFiles r.side (t :: rest) = files ++ namedFiles s.side rest ∧ Gains files r s := by
  obtain ⟨outer, inner⟩ := r
  cases inner with
  | none =>
    cases hname : Command.ofName? name with
    | none =>
      obtain ⟨hside, hgains⟩ := gains_file ((positional_eq_ok_iff rfl hname).mp h).2
      rw [hside]
      exact ⟨_, namedFiles_file ht fun _ => hname, hgains⟩
    | some command =>
      simp only [positional, hname] at h
      cases h
      exact ⟨[], namedFiles_command ht hname, gains_nil (by funext side; cases side <;> rfl)⟩
  | some inner =>
    simp only [positional] at h
    obtain ⟨hside, hgains⟩ := gains_file h
    rw [hside]
    exact ⟨[(.inner, name)], namedFiles_file ht (by simp [side]), hgains⟩

/-- Reading finds the files that the arguments name. -/
theorem Reads.gains (h : Reads r arguments r') : Gains (namedFiles r.side arguments) r r' := by
  induction h with
  | nil => exact gains_nil rfl
  | positional ht hs _ ih =>
    obtain ⟨files, hfiles, hgains⟩ := gains_positional ht hs
    rw [hfiles]
    exact hgains.trans ih
  | separator ht hfiles =>
    rw [namedFiles_separator ht]
    exact gains_addFiles hfiles
  | option hoption hs _ ih =>
    obtain ⟨hside, hgains⟩ := gains_option hoption hs
    rw [namedFiles_option hoption, ← hside]
    exact hgains.trans ih

/-- What is read is the file behind the command, or else the one in front of it. -/
theorem source_request (r : Reading) :
    r.request.source = .ofArgument ((r.file .inner).or (r.file .outer)) := by
  obtain ⟨outer, inner⟩ := r
  cases inner <;> rfl

end Reading

/-- The source is the file that the command line is about, or else standard input. -/
theorem source_of_readArguments {request : Request} (h : readArguments arguments = .ok request) :
    request.source = .ofArgument (chosenFile? arguments) := by
  obtain ⟨r, hreads, rfl⟩ := readArguments_eq_ok_iff.mp h
  have hfile (side : Side) : r.file side = (namedFiles .outer arguments).lookup side :=
    (hreads.gains side).trans (by cases side <;> rfl)
  rw [Reading.source_request, hfile, hfile]
  rfl

/-- Standard input is read exactly if no file is named, or a lone dash is. -/
theorem Source.ofArgument_eq_standardInput_iff {file : Option Text} :
    Source.ofArgument file = .standardInput ↔ file = none ∨ file = some ['-'] := by
  cases file with
  | none => simp [ofArgument]
  | some name => simp [ofArgument]

/-- Any other name is that of a file. -/
theorem Source.ofArgument_eq_file_iff {file : Option Text} :
    Source.ofArgument file = .file name ↔ file = some name ∧ name ≠ ['-'] := by
  cases file with
  | none => simp [ofArgument]
  | some other =>
    rw [ofArgument, Option.some.injEq]
    split
    · grind
    · grind

/-! ## Lines of files and a command -/

/-- A file argument by its spelling: it is not empty and no option. -/
structure IsFileArgument (t : Text) : Prop where
  ne_nil : t ≠ []
  no_option : t.head? = some '-' → t = ['-']

/-- A file argument that is one also in front of a command. -/
structure IsOuterFileArgument (t : Text) : Prop extends IsFileArgument t where
  ne_name : ∀ command : Command, t ≠ command.name
  /-- This name asks for the help screen. -/
  ne_help : t ≠ "help".toList

/-- What is no positional argument begins with a dash and goes on. -/
theorem Argument.head?_of_spelledBy {a : Argument} (h : a.SpelledBy t)
    (ha : ∀ name, a ≠ .positional name) : t.head? = some '-' ∧ t ≠ ['-'] := by
  cases a with
  | positional name => exact absurd rfl (ha name)
  | separator => exact (h : t = _) ▸ ⟨rfl, by decide⟩
  | format => exact (h : t = _) ▸ ⟨rfl, by decide⟩
  | formatValue name =>
    obtain ⟨rest, rfl⟩ := h
    exact ⟨rfl, by simp⟩
  | strings => exact (h : t = _) ▸ ⟨rfl, by decide⟩
  | version =>
    rcases h with rfl | ⟨rest, rfl⟩
    · exact ⟨rfl, by decide⟩
    · exact ⟨rfl, by simp⟩
  | help =>
    rcases h with rfl | ⟨rest, rfl⟩
    · exact ⟨rfl, by decide⟩
    · exact ⟨rfl, by simp⟩
  | unknownOption => exact h

/-- A file argument is read as positional. -/
theorem IsFileArgument.ofText (h : IsFileArgument t) : Argument.ofText t = .positional t := by
  cases hargument : Argument.ofText t with
  | positional name =>
    obtain rfl : t = name := Argument.spelledBy_of_ofText hargument
    rfl
  | _ =>
    obtain ⟨hdash, hne⟩ := Argument.head?_of_spelledBy (Argument.spelledBy_of_ofText hargument)
      (by simp)
    exact absurd (h.no_option hdash) hne

/-- A file argument in front of a command spells none. -/
theorem IsOuterFileArgument.ofName?_eq (h : IsOuterFileArgument t) :
    Command.ofName? t = none := by
  rw [Command.ofName?, if_neg (show t ≠ "tokens".toList from h.ne_name .tokens),
    if_neg (show t ≠ "check".toList from h.ne_name .check),
    if_neg (show t ≠ "analyze".toList from h.ne_name .analyze)]

/-- A level without a file takes one that has a name. -/
theorem Level.setFile_eq {level : Level} (ht : t ≠ []) (hfile : level.file = none) :
    level.setFile t = .ok { level with file := some t } := by
  simp [setFile, ht, hfile]

namespace Reading

variable {r r' : Reading} {outer level : Level} {command : Command}

/-- A file in front of the command is read. -/
theorem reads_outerFile (h : IsOuterFileArgument t) (hfile : outer.file = none)
    (hrest : Reads ⟨{ outer with file := some t }, none⟩ rest r') :
    Reads ⟨outer, none⟩ (t :: rest) r' := by
  refine .positional h.ofText ((positional_eq_ok_iff rfl h.ofName?_eq).mpr ⟨h.ne_help, ?_⟩) hrest
  simp only [update, Level.setFile_eq h.ne_nil hfile]
  rfl

/-- The name of a command in front of which there is none is read as the command. -/
theorem reads_command (hrest : Reads ⟨outer, some (command, .empty)⟩ rest r') :
    Reads ⟨outer, none⟩ (command.name :: rest) r' := by
  have hspelling : Argument.ofText command.name = .positional command.name := by
    cases command <;> rfl
  refine .positional hspelling ?_ hrest
  cases command <;> rfl

/-- Behind the command every file argument is a file, also one that spells a command. -/
theorem reads_innerFile (h : IsFileArgument t) (hfile : level.file = none)
    (hrest : Reads ⟨outer, some (command, { level with file := some t })⟩ rest r') :
    Reads ⟨outer, some (command, level)⟩ (t :: rest) r' := by
  refine .positional h.ofText ?_ hrest
  simp only [positional, update, Level.setFile_eq h.ne_nil hfile]
  rfl

end Reading

/-- What a command shows of a file, as text. -/
def Request.about (command : Command) (file : Text) : Request :=
  ⟨command.parts, .text, .marker, .ofArgument (some file)⟩

variable {f g : Text}

/-- A command and a file behind it ask for what the command shows of the file. -/
theorem readArguments_command_file (command : Command) (hg : IsFileArgument g) :
    readArguments [command.name, g] = .ok (.about command g) :=
  readArguments_eq_ok_iff.mpr
    ⟨_, Reading.reads_command (Reading.reads_innerFile hg rfl .nil), rfl⟩

/-- So does the file in front of the command, if it is the only one. -/
theorem readArguments_file_command (command : Command) (hf : IsOuterFileArgument f) :
    readArguments [f, command.name] = .ok (.about command f) :=
  readArguments_eq_ok_iff.mpr
    ⟨_, Reading.reads_outerFile hf rfl (Reading.reads_command .nil), rfl⟩

/-- Of two files the one behind the command is read. -/
theorem readArguments_file_command_file (command : Command) (hf : IsOuterFileArgument f)
    (hg : IsFileArgument g) : readArguments [f, command.name, g] = .ok (.about command g) := by
  rw [readArguments_eq_ok_iff]
  exact ⟨_,
    Reading.reads_outerFile hf rfl (Reading.reads_command (Reading.reads_innerFile hg rfl .nil)),
    rfl⟩

/-- A file alone asks for its whole analysis. -/
theorem readArguments_file (hf : IsOuterFileArgument f) :
    readArguments [f] = .ok (.about .analyze f) :=
  readArguments_eq_ok_iff.mpr ⟨_, Reading.reads_outerFile hf rfl .nil, rfl⟩

/-! ## Equivalent lines -/

/-- What is read alike is answered alike. -/
theorem answer_eq_of_readArguments_eq {arguments' : List Text} {files : Files} {stdin : Content}
    (h : readArguments arguments = readArguments arguments') :
    answer arguments files stdin = answer arguments' files stdin := by
  rw [answer, answer, h]

/-- An option that is given once may stand at any place that admits an option, in front of the
command or behind it.  A file in front of the command is not read if there is one behind it, and the
only file may stand on either side; without a command the analysis of the file is shown.  What is
read is standard input exactly if the file that the line is about is a lone dash, or there is
none. -/
theorem answers_of_equivalent_lines (files : Files) (stdin : Content) :
    (∀ (o : Setting) (given front back front' back' : List Text), o.GivenBy given →
      front ++ back = front' ++ back' → o.NotGivenIn (front ++ back) →
        AdmitsOption front → AdmitsOption front' →
          answer (front ++ given ++ back) files stdin =
            answer (front' ++ given ++ back') files stdin) ∧
    (∀ (command : Command) (f g : Text), IsOuterFileArgument f → IsFileArgument g →
      answer [f, command.name, g] files stdin = answer [command.name, g] files stdin ∧
      answer [f, command.name] files stdin = answer [command.name, f] files stdin ∧
      answer [f] files stdin = answer [Command.analyze.name, f] files stdin) ∧
    ∀ arguments request, readArguments arguments = .ok request →
      (request.source = .standardInput ↔
        chosenFile? arguments = none ∨ chosenFile? arguments = some ['-']) ∧
      ∀ name, request.source = .file name ↔ chosenFile? arguments = some name ∧ name ≠ ['-'] := by
  refine ⟨?_, ?_, ?_⟩
  · intro o given front back front' back' hgiven hsame hnot hfront hfront'
    apply answer_eq_of_readArguments_eq
    rw [readArguments_insert hgiven hfront hnot, hsame,
      readArguments_insert hgiven hfront' (hsame ▸ hnot)]
  · intro command f g hf hg
    refine ⟨?_, ?_, ?_⟩
    · apply answer_eq_of_readArguments_eq
      rw [readArguments_file_command_file command hf hg, readArguments_command_file command hg]
    · apply answer_eq_of_readArguments_eq
      rw [readArguments_file_command command hf,
        readArguments_command_file command hf.toIsFileArgument]
    · apply answer_eq_of_readArguments_eq
      rw [readArguments_file hf, readArguments_command_file .analyze hf.toIsFileArgument]
  · intro arguments request h
    rw [source_of_readArguments h]
    exact ⟨Source.ofArgument_eq_standardInput_iff, fun name => Source.ofArgument_eq_file_iff⟩

/-- Command lines about a file whose name spells a command behind one, and about standard input,
which is a directory here. -/
theorem answers_of_equivalent_lines_file_check :
    let files : Files := [(["a".toList], .bytes "x=[1".toList.utf8Encode)]
    let ask := fun arguments : List String =>
      answer (arguments.map String.toList) files .directory
    ask ["--format", "json", "a", "tokens", "--", "--format"] =
        ask ["a", "tokens", "--format", "json", "--", "--format"] ∧
      ask ["--strings", "a", "--format=json", "tokens"] =
        ask ["a", "--format=json", "tokens", "--strings"] ∧
      ask ["a", "tokens", "check"] = ask ["tokens", "check"] ∧
      ask ["a", "tokens"] = ask ["tokens", "a"] ∧
      ask ["a"] = ask ["analyze", "a"] ∧
      ask ["a", "tokens", "-"] = .finished 2 [] (readingError .standardInput .isDirectory) := by
  intro files ask
  obtain ⟨hoption, hfile, hsource⟩ := answers_of_equivalent_lines files .directory
  have ha : IsOuterFileArgument "a".toList :=
    ⟨⟨by decide, by decide⟩, by rintro (- | - | -) <;> decide, by decide⟩
  have hcheck : IsFileArgument "check".toList := ⟨by decide, by decide⟩
  have hjson : ask ["--format", "json", "a", "tokens", "--", "--format"] =
      ask ["a", "tokens", "--format", "json", "--", "--format"] :=
    hoption (.format .json) _ [] _ ["a".toList, "tokens".toList] _ (.format .json) rfl
      (by decide) ⟨by decide, by decide⟩ ⟨by decide, by decide⟩
  have hstrings : ask ["--strings", "a", "--format=json", "tokens"] =
      ask ["a", "--format=json", "tokens", "--strings"] :=
    hoption .strings _ [] _ ["a".toList, "--format=json".toList, "tokens".toList] [] .strings rfl
      (by decide) ⟨by decide, by decide⟩ ⟨by decide, by decide⟩
  obtain ⟨hother, -, -⟩ := hfile .tokens _ _ ha hcheck
  obtain ⟨-, honly, hplain⟩ := hfile .tokens _ _ ha ha.toIsFileArgument
  refine ⟨hjson, hstrings, hother, honly, hplain, ?_⟩
  obtain ⟨request, hread⟩ : ∃ request,
      readArguments ["a".toList, "tokens".toList, "-".toList] = .ok request := ⟨_, rfl⟩
  have hstdin : request.source = .standardInput := (hsource _ _ hread).1.mpr (.inr rfl)
  have hfails : request.source.Fails files .directory .isDirectory := by
    rw [hstdin]
    exact .isDirectory rfl
  have hanswer := answer_of_fails hread hfails
  rw [hstdin] at hanswer
  exact hanswer

end TypedList
