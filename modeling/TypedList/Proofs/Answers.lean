import TypedList.CommandLine.Answer
import TypedList.Proofs.Acceptance
import TypedList.Proofs.Arguments
import TypedList.Proofs.FirstTokens
import TypedList.Proofs.Tables

/-!
# Answers to command lines

Whether a source holds a text, and which, is decided before anything is shown.  A source without a
text ends the program with an error message and no output; a text is answered with the exit status
of its diagnostics, whatever is shown of it.  The one exception is a token table that cannot be
printed: the program breaks off without a status of its own.

Main results:

- Theorem `Content.text_eq_ok_iff`: a content holds a text exactly if it is the UTF-8 form of it.
- Theorems `Source.read_eq_ok_iff` and `Source.read_of_fails`: reading a source gives the text that
  it holds, or the reason why it holds none.
- Theorem `answers_agree`: all accepted command lines with one source fail together or give the
  same exit status, unless a token table is too wide, and the output of the whole analysis is put
  together from those of its parts.
- Theorem `answers_disagree_long_name`: a name that is too long for the token table is accepted by
  one command and ends the program under another.
-/

namespace TypedList

/-! ## Sources -/

/-- A content holds a text exactly if it is the UTF-8 form of it. -/
theorem Content.text_eq_ok_iff {c : Content} {t : Text} :
    c.text = .ok t ↔ c = .bytes t.utf8Encode := by
  cases c with
  | directory =>
    constructor
    · intro h
      exact nomatch h
    · intro h
      exact nomatch h
  | bytes data =>
    rw [Content.bytes.injEq]
    constructor
    · intro h
      by_cases hvalid : data.IsValidUTF8
      · simp only [text, String.fromUTF8?, dif_pos hvalid, Except.ok.injEq] at h
        rw [← h, ← String.toByteArray_ofList, String.ofList_toList]
        rfl
      · simp only [text, String.fromUTF8?, dif_neg hvalid] at h
        exact nomatch h
    · rintro rfl
      have hvalid : t.utf8Encode.IsValidUTF8 := ⟨t, rfl⟩
      have hstring : String.fromUTF8 t.utf8Encode hvalid = String.ofList t := rfl
      simp only [text, String.fromUTF8?, dif_pos hvalid, hstring, String.toList_ofList]

namespace Source

variable {files : Files} {stdin : Content} {source : Source} {t : Text} {failure : ReadFailure}

/-- What a source leads to. -/
def content (files : Files) (stdin : Content) : Source → Except ReadFailure Content
  | standardInput => .ok stdin
  | file name => files.find name

/-- The source holds the text, in UTF-8. -/
def Holds (files : Files) (stdin : Content) (source : Source) (t : Text) : Prop :=
  source.content files stdin = .ok (.bytes t.utf8Encode)

/-- The source holds no text, for the given reason. -/
inductive Fails (files : Files) (stdin : Content) (source : Source) : ReadFailure → Prop
  /-- It leads nowhere. -/
  | unreachable {failure : ReadFailure} : source.content files stdin = .error failure →
      Fails files stdin source failure
  | isDirectory : source.content files stdin = .ok .directory →
      Fails files stdin source .isDirectory
  /-- Its bytes are not the UTF-8 form of any text. -/
  | invalidText {data : ByteArray} : source.content files stdin = .ok (.bytes data) →
      (∀ t : Text, data ≠ t.utf8Encode) → Fails files stdin source .invalidText

/-- A source is read by finding its content and then the text in it. -/
theorem read_eq (files : Files) (stdin : Content) (source : Source) :
    source.read files stdin = source.content files stdin >>= Content.text := by
  cases source <;> rfl

/-- Reading a source gives the text that it holds. -/
theorem read_eq_ok_iff : source.read files stdin = .ok t ↔ source.Holds files stdin t := by
  rw [read_eq, bind_eq_ok]
  constructor
  · rintro ⟨c, hc, ht⟩
    rw [Content.text_eq_ok_iff] at ht
    rw [Holds, hc, ht]
  · intro h
    exact ⟨_, h, Content.text_eq_ok_iff.mpr rfl⟩

/-- Reading a source fails for the reason for which it holds no text. -/
theorem read_of_fails (h : source.Fails files stdin failure) :
    source.read files stdin = .error failure := by
  rw [read_eq]
  cases h with
  | unreachable hcontent => rw [hcontent]; rfl
  | isDirectory hcontent => rw [hcontent]; rfl
  | invalidText hcontent hinvalid =>
    rename_i data
    rw [hcontent]
    have hnot : ¬ data.IsValidUTF8 := by
      rintro ⟨t, ht⟩
      exact hinvalid t ht
    change Content.text (.bytes data) = _
    simp only [Content.text, String.fromUTF8?, dif_neg hnot]

/-- A source holds a text or fails. -/
theorem exists_holds_or_fails (files : Files) (stdin : Content) (source : Source) :
    (∃ t, source.Holds files stdin t) ∨ ∃ failure, source.Fails files stdin failure := by
  rcases hcontent : source.content files stdin with failure | ⟨data⟩ | -
  · exact .inr ⟨failure, .unreachable hcontent⟩
  · by_cases hvalid : ∃ t : Text, data = t.utf8Encode
    · obtain ⟨t, rfl⟩ := hvalid
      exact .inl ⟨t, hcontent⟩
    · exact .inr ⟨_, .invalidText hcontent (not_exists.mp hvalid)⟩
  · exact .inr ⟨_, .isDirectory hcontent⟩

end Source

/-! ## Single answers -/

/-- The exit status of an answer, for a request for help that of a help screen. -/
def Answer.exit : Answer → Nat
  | usageError => 2
  | help => 0
  | finished exit _ _ => exit
  | aborted _ => 101

/-- What an answer writes to standard output, a help screen apart. -/
def Answer.stdout : Answer → Text
  | usageError => []
  | help => []
  | finished _ stdout _ => stdout
  | aborted _ => []

/-- The message for a source that holds no text. -/
def readingError (source : Source) (failure : ReadFailure) : Text :=
  "Error: reading ".toList ++ source.display ++ ": ".toList ++ failure.reason ++ ['\n']

/-- The exit status for a text. -/
def exitStatus (t : Text) : Nat :=
  if diagnose t = [] then 0 else 1

variable {files : Files} {stdin : Content} {arguments arguments' : List Text}
  {request request' : Request} {t : Text} {failure : ReadFailure}

/-- What a command line gives is what its request gives for the text of its source. -/
theorem answer_of_readArguments (h : readArguments arguments = .ok request) :
    answer arguments files stdin = request.answer (request.source.read files stdin) := by
  rw [answer, h]

/-- Where there is no text nothing is shown but the reason. -/
theorem answer_of_fails (h : readArguments arguments = .ok request)
    (hfails : request.source.Fails files stdin failure) :
    answer arguments files stdin = .finished 2 [] (readingError request.source failure) := by
  rw [answer_of_readArguments h, Source.read_of_fails hfails]
  rfl

/-- A text is answered with its exit status and without an error message if its report can be
printed. -/
theorem answer_of_output {output : Text} (h : readArguments arguments = .ok request)
    (ht : request.source.Holds files stdin t)
    (houtput : request.output (analyze request.mode t) = .ok output) :
    answer arguments files stdin = .finished (exitStatus t) output [] := by
  have hvalid : (analyze request.mode t).isValid = true ↔ diagnose t = [] := List.isEmpty_iff
  rw [answer_of_readArguments h, Source.read_eq_ok_iff.mpr ht]
  simp only [Request.answer, houtput, hvalid, exitStatus]

/-- A report that cannot be printed ends the program. -/
theorem answer_of_failure {failure : TableFailure} (h : readArguments arguments = .ok request)
    (ht : request.source.Holds files stdin t)
    (houtput : request.output (analyze request.mode t) = .error failure) :
    answer arguments files stdin = .aborted failure := by
  rw [answer_of_readArguments h, Source.read_eq_ok_iff.mpr ht]
  simp only [Request.answer, houtput]

/-! ## Reports that can be printed -/

/-- The token table of the text is to be shown and cannot be printed. -/
structure Request.Overflows (r : Request) (t : Text) : Prop where
  text : r.format = .text
  tokens : r.parts.includeTokens = true
  wide : ¬ FitsTable (scan r.mode t)

/-- The parts of an analysis as text, however wide the token table is. -/
def Analysis.partsText (a : Analysis) : Parts → Text
  | .tokens => tokenTable a.tokens
  | .errors => errorLog a.errors ++ ['\n']
  | .both => tokenTable a.tokens ++ '\n' :: errorLog a.errors ++ ['\n']

/-- The text of both parts is that of each with an empty line between them. -/
theorem Analysis.partsText_both (a : Analysis) :
    a.partsText .both = a.partsText .tokens ++ '\n' :: a.partsText .errors :=
  List.append_assoc _ _ _

/-- If the token table fits where it is asked for, the report can be printed. -/
theorem Analysis.textReport_of_fits {a : Analysis} {parts : Parts}
    (h : parts.includeTokens = true → FitsTable a.tokens) :
    a.textReport parts = .ok (a.partsText parts) := by
  cases parts with
  | tokens => exact printTable_of_fits (h rfl)
  | errors => rfl
  | both =>
    rw [textReport, printTable_of_fits (h rfl)]
    rfl

namespace Request

/-- Everything but a token table that is too wide can be printed. -/
theorem exists_output {r : Request} (h : ¬ r.Overflows t) :
    ∃ output, r.output (analyze r.mode t) = .ok output := by
  rw [output]
  split
  · rename_i htext
    refine ⟨_, Analysis.textReport_of_fits fun htokens => ?_⟩
    by_contra hwide
    exact h ⟨htext, htokens, hwide⟩
  · exact ⟨_, rfl⟩

/-- A token table that is too wide takes the whole report with it. -/
theorem Overflows.output_eq {r : Request} (h : r.Overflows t) :
    r.output (analyze r.mode t) = .error .columnTooWide := by
  obtain ⟨parts, format, mode, source⟩ := r
  obtain rfl : format = .text := h.text
  have htable : printTable (analyze mode t).tokens = .error .columnTooWide :=
    printTable_of_not_fits h.wide
  cases parts with
  | tokens => exact htable
  | errors => exact nomatch h.tokens
  | both =>
    change (analyze mode t).textReport .both = _
    rw [Analysis.textReport, htable]
    rfl

end Request

/-! ## Answers to several command lines -/

/-- A text is answered with its exit status, unless its token table cannot be printed. -/
theorem exists_answer (h : readArguments arguments = .ok request)
    (ht : request.source.Holds files stdin t) (hfits : ¬ request.Overflows t) :
    ∃ stdout, answer arguments files stdin = .finished (exitStatus t) stdout [] := by
  obtain ⟨output, houtput⟩ := Request.exists_output hfits
  exact ⟨output, answer_of_output h ht houtput⟩

/-- The exit status depends on the source only. -/
theorem exit_answer_eq (h : readArguments arguments = .ok request)
    (h' : readArguments arguments' = .ok request') (hsource : request.source = request'.source)
    (hfits : ∀ t, request.source.Holds files stdin t →
      ¬ request.Overflows t ∧ ¬ request'.Overflows t) :
    (answer arguments files stdin).exit = (answer arguments' files stdin).exit := by
  rcases request.source.exists_holds_or_fails files stdin with ⟨t, ht⟩ | ⟨failure, hfails⟩
  · obtain ⟨stdout, hanswer⟩ := exists_answer h ht (hfits t ht).1
    obtain ⟨stdout', hanswer'⟩ := exists_answer h' (hsource ▸ ht) (hfits t ht).2
    rw [hanswer, hanswer']
    rfl
  · rw [answer_of_fails h hfails, answer_of_fails h' (hsource ▸ hfails)]
    rfl

/-- The arguments are accepted, name the command or none, and ask for text about a source. -/
structure AsksForText (arguments : List Text) (command : Option Command) (mode : QuoteMode)
    (source : Source) : Prop where
  named : namedCommand? arguments = command
  accepted : ∃ request, readArguments arguments = .ok request ∧ request.format = .text ∧
    request.mode = mode ∧ request.source = source

variable {command : Option Command} {mode : QuoteMode} {source : Source}

/-- What arguments that ask for text are read as. -/
theorem AsksForText.readArguments_eq (h : AsksForText arguments command mode source) :
    readArguments arguments = .ok ⟨(command.getD .analyze).parts, .text, mode, source⟩ := by
  obtain ⟨⟨parts, format, mode, source⟩, hread, rfl, rfl, rfl⟩ := h.accepted
  have hparts := parts_of_readArguments hread
  rw [h.named] at hparts
  rw [hread, ← hparts]

/-- What is written about a text is what the command shows of its analysis. -/
theorem AsksForText.stdout_eq (h : AsksForText arguments command mode source)
    (ht : source.Holds files stdin t) (hfits : FitsTable (scan mode t)) :
    (answer arguments files stdin).stdout =
      (analyze mode t).partsText (command.getD .analyze).parts := by
  rw [answer_of_output h.readArguments_eq ht (Analysis.textReport_of_fits fun _ => hfits)]
  rfl

/-- An accepted command line is answered with an error message where its source holds no text, and
with the exit status of the text otherwise, unless it asks for a token table that is too wide to be
printed.  Apart from that the status depends on the source only.  As text, the output of the whole
analysis is the token table, an empty line and the error log; this is what is shown without a
command. -/
theorem answers_agree (files : Files) (stdin : Content) :
    (∀ arguments request, readArguments arguments = .ok request →
      ((∀ t, ¬ request.source.Holds files stdin t) → ∃ failure,
        request.source.Fails files stdin failure ∧
          answer arguments files stdin = .finished 2 [] (readingError request.source failure)) ∧
      ∀ t, request.source.Holds files stdin t →
        (¬ request.Overflows t → ∃ stdout,
          answer arguments files stdin = .finished (exitStatus t) stdout []) ∧
        (request.Overflows t → answer arguments files stdin = .aborted .columnTooWide)) ∧
    (∀ arguments request arguments' request', readArguments arguments = .ok request →
      readArguments arguments' = .ok request' → request.source = request'.source →
        (∀ t, request.source.Holds files stdin t →
          ¬ request.Overflows t ∧ ¬ request'.Overflows t) →
        (answer arguments files stdin).exit = (answer arguments' files stdin).exit) ∧
    (∀ whole tokens check mode source t, AsksForText whole (some .analyze) mode source →
      AsksForText tokens (some .tokens) mode source →
        AsksForText check (some .check) mode source → source.Holds files stdin t →
          FitsTable (scan mode t) →
          (answer whole files stdin).stdout =
            (answer tokens files stdin).stdout ++ '\n' :: (answer check files stdin).stdout) ∧
    (∀ plain whole mode source, AsksForText plain none mode source →
      AsksForText whole (some .analyze) mode source →
        answer plain files stdin = answer whole files stdin) ∧
    ∀ arguments request, readArguments arguments = .ok request →
      namedCommand? arguments = none →
        readArguments (Command.analyze.name :: arguments) = .ok request ∧
          answer arguments files stdin =
            answer (Command.analyze.name :: arguments) files stdin := by
  refine ⟨?_, ?_, ?_, ?_, ?_⟩
  · intro arguments request h
    constructor
    · intro hnone
      rcases request.source.exists_holds_or_fails files stdin with ⟨t, ht⟩ | ⟨failure, hfails⟩
      · exact absurd ht (hnone t)
      · exact ⟨failure, hfails, answer_of_fails h hfails⟩
    · intro t ht
      exact ⟨exists_answer h ht, fun hwide => answer_of_failure h ht hwide.output_eq⟩
  · intro arguments request arguments' request' h h' hsource hfits
    exact exit_answer_eq h h' hsource hfits
  · intro whole tokens check mode source t hwhole htokens hcheck ht hfits
    rw [hwhole.stdout_eq ht hfits, htokens.stdout_eq ht hfits, hcheck.stdout_eq ht hfits]
    exact Analysis.partsText_both _
  · intro plain whole mode source hplain hwhole
    rw [answer_of_readArguments hplain.readArguments_eq,
      answer_of_readArguments hwhole.readArguments_eq]
    rfl
  · intro arguments request h hnone
    have hparts : request.parts = .both := by
      rw [parts_of_readArguments h, hnone]
      rfl
    have hfront : readArguments (Command.analyze.name :: arguments) = .ok request := by
      rw [readArguments_cons_name h hnone .analyze]
      cases request
      cases hparts
      rfl
    rw [answer_of_readArguments h, answer_of_readArguments hfront]
    exact ⟨hfront, rfl⟩

/-- Command lines about a file that does not close its list, and one about standard input, which is
a directory here. -/
theorem answers_agree_unclosed_list :
    let files : Files := [(["a".toList], .bytes "x=[1".toList.utf8Encode)]
    let ask := fun arguments : List String =>
      answer (arguments.map String.toList) files .directory
    AsksForText ["--strings".toList, "a".toList] none .literal (.file "a".toList) ∧
      (Source.file "a".toList).Holds files .directory "x=[1".toList ∧
      FitsTable (scan .literal "x=[1".toList) ∧
      (∃ stdout, ask ["--strings", "a"] = .finished 1 stdout []) ∧
      ask ["--strings", "a"] = ask ["analyze", "--strings", "a"] ∧
      (ask ["analyze", "--strings", "a"]).exit = (ask ["a", "check", "--format=json"]).exit ∧
      (ask ["analyze", "--strings", "a"]).stdout =
        (ask ["a", "tokens", "--strings"]).stdout ++
          '\n' :: (ask ["--strings", "check", "a"]).stdout ∧
      ask ["tokens"] = .finished 2 [] (readingError .standardInput .isDirectory) := by
  intro files ask
  obtain ⟨hsingle, hexit, hparts, hplain, hfront⟩ := answers_agree files .directory
  have hnone : AsksForText ["--strings".toList, "a".toList] none .literal (.file "a".toList) :=
    ⟨rfl, _, rfl, rfl, rfl, rfl⟩
  have hwhole : AsksForText ["analyze".toList, "--strings".toList, "a".toList] (some .analyze)
      .literal (.file "a".toList) := ⟨rfl, _, rfl, rfl, rfl, rfl⟩
  have htokens : AsksForText ["a".toList, "tokens".toList, "--strings".toList] (some .tokens)
      .literal (.file "a".toList) := ⟨rfl, _, rfl, rfl, rfl, rfl⟩
  have hcheck : AsksForText ["--strings".toList, "check".toList, "a".toList] (some .check)
      .literal (.file "a".toList) := ⟨rfl, _, rfl, rfl, rfl, rfl⟩
  have hjson : readArguments ["a".toList, "check".toList, "--format=json".toList] =
      .ok ⟨.errors, .json, .marker, .file "a".toList⟩ := rfl
  have hholds : (Source.file "a".toList).Holds files .directory "x=[1".toList := rfl
  have honly {t : Text} (ht : (Source.file "a".toList).Holds files .directory t) :
      t = "x=[1".toList :=
    Except.ok.inj ((Source.read_eq_ok_iff.mpr ht).symm.trans (Source.read_eq_ok_iff.mpr hholds))
  have hfits : FitsTable (scan .literal "x=[1".toList) := by decide +kernel
  have hstatus : exitStatus "x=[1".toList = 1 := by decide +kernel
  have hanswer := ((hsingle _ _ hnone.readArguments_eq).2 _ hholds).1 fun hwide => hwide.wide hfits
  rw [hstatus] at hanswer
  have hstdin : readArguments ["tokens".toList] = .ok ⟨.tokens, .text, .marker, .standardInput⟩ :=
    rfl
  refine ⟨hnone, hholds, hfits, hanswer, hplain _ _ _ _ hnone hwhole,
    hexit _ _ _ _ hwhole.readArguments_eq hjson rfl ?_,
    hparts _ _ _ _ _ _ hwhole htokens hcheck hholds hfits, ?_⟩
  · intro t ht
    obtain rfl := honly ht
    exact ⟨fun hwide => hwide.wide hfits, fun hwide => nomatch hwide.text⟩
  · obtain ⟨failure, hfails, herror⟩ := (hsingle _ _ hstdin).1 fun t ht => nomatch ht
    cases hfails with
    | unreachable hcontent => exact nomatch hcontent
    | isDirectory hcontent => exact herror
    | invalidText hcontent => exact nomatch hcontent

/-! ## A table that is too wide -/

/-- A name that is longer than padding can make a cell does not fit the token table. -/
theorem not_fitsTable_of_name {name rest : Text} (hname : IsName name)
    (hlong : widestPadding < name.length) (hrest : Stops isWordChar rest) :
    ¬ FitsTable (scan mode (name ++ rest)) := by
  obtain ⟨l, hscan⟩ : ∃ l, scanFrom mode .start (name ++ rest) =
      .sound (.ofWord name) name (.ofLength .start name.length) :: scanFrom mode l rest :=
    scanFrom_name .start hname hrest
  have hmem : .sound (.ofWord name) name (.ofLength .start name.length) ∈
      scan mode (name ++ rest) := by
    change _ ∈ scanFrom mode .start (name ++ rest)
    rw [hscan]
    exact List.mem_cons_self
  have hshown := (showsText_shownText name).length_le
  intro hfits
  have hcell := hfits _ hmem (shownText name) (by simp [Token.row, Token.sound])
  omega

/-- Whatever its name, a declaration of an empty list is accepted. -/
theorem exitStatus_empty_list {name : Text} (hname : IsName name) :
    exitStatus (name ++ "=[];".toList) = 0 := by
  have hblank : IsBlank [] := nofun
  have hdeclaration : IsDeclaration (name ++ "=[];".toList) :=
    ⟨[], name, [], [], [], [], [], [], [], hblank, hname, hblank, hblank, hblank, .empty, hblank,
      hblank, hblank, by simp⟩
  exact if_pos ((diagnose_eq_nil_iff_mem _).mpr (Grammar.mem_declaration.mpr hdeclaration))

/-- A declaration with a name that is too long for the token table is accepted where the table is
not shown as text, and ends the program where it is. -/
theorem answers_of_long_name (files : Files) {name : Text} (hname : IsName name)
    (hlong : widestPadding < name.length) :
    let stdin := Content.bytes (name ++ "=[];".toList).utf8Encode
    (answer ["check".toList] files stdin).exit = 0 ∧
      (answer ["tokens".toList, "--format=json".toList] files stdin).exit = 0 ∧
      answer ["tokens".toList] files stdin = .aborted .columnTooWide := by
  intro stdin
  have hholds : Source.standardInput.Holds files stdin (name ++ "=[];".toList) := rfl
  have hcheck : readArguments ["check".toList] = .ok ⟨.errors, .text, .marker, .standardInput⟩ :=
    rfl
  have hjson : readArguments ["tokens".toList, "--format=json".toList] =
      .ok ⟨.tokens, .json, .marker, .standardInput⟩ := rfl
  have htable : readArguments ["tokens".toList] = .ok ⟨.tokens, .text, .marker, .standardInput⟩ :=
    rfl
  obtain ⟨log, hlog⟩ := exists_answer hcheck hholds fun hwide => nomatch hwide.tokens
  obtain ⟨report, hreport⟩ := exists_answer hjson hholds fun hwide => nomatch hwide.text
  have hends : Stops isWordChar "=[];".toList := by
    rw [Stops]
    decide +kernel
  have hwide : ¬ FitsTable (scan .marker (name ++ "=[];".toList)) :=
    not_fitsTable_of_name hname hlong hends
  have hoverflows : Request.Overflows ⟨.tokens, .text, .marker, .standardInput⟩
      (name ++ "=[];".toList) := ⟨rfl, rfl, hwide⟩
  have hbreaks := answer_of_failure htable hholds hoverflows.output_eq
  rw [hlog, hreport, exitStatus_empty_list hname]
  exact ⟨rfl, rfl, hbreaks⟩

/-- One letter written any number of times is a name. -/
theorem isName_replicate {n : Nat} (hn : n ≠ 0) : IsName (List.replicate n 'a') := by
  constructor
  · rwa [Ne, List.replicate_eq_nil_iff]
  · intro c hc
    rw [List.eq_of_mem_replicate hc]
    rfl

/-- A name of 65536 letters is one letter too long. -/
theorem answers_disagree_long_name :
    let t := List.replicate 65536 'a' ++ "=[];".toList
    let files : Files := []
    let ask := fun arguments : List String =>
      answer (arguments.map String.toList) files (.bytes t.utf8Encode)
    exitStatus t = 0 ∧ (ask ["check"]).exit = 0 ∧ (ask ["tokens", "--format=json"]).exit = 0 ∧
      ask ["tokens"] = .aborted .columnTooWide ∧ (ask ["tokens"]).exit = 101 := by
  intro t files ask
  have hname : IsName (List.replicate 65536 'a') := isName_replicate (by decide)
  have hlong : widestPadding < (List.replicate 65536 'a').length := by
    rw [List.length_replicate]
    decide
  obtain ⟨hcheck, hjson, htokens⟩ := answers_of_long_name files hname hlong
  exact ⟨exitStatus_empty_list hname, hcheck, hjson, htokens, congrArg Answer.exit htokens⟩

end TypedList
