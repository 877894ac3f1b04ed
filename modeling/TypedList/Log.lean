import TypedList.Analysis

/-!
# The log of an analysis

One record for every token as it is made and one for every event of the check, each kind followed
by a summary.
-/

namespace TypedList

/-- How much detail a record belongs to. -/
inductive LogLevel
  | trace
  | debug
deriving DecidableEq, Repr

/-- The name of a level. -/
def LogLevel.name : LogLevel → Text
  | trace => "TRACE".toList
  | debug => "DEBUG".toList

/-- A message of the log. -/
structure LogRecord where
  level : LogLevel
  message : Text
deriving DecidableEq, Repr

/-- A record as one line. -/
def LogRecord.display (r : LogRecord) : Text :=
  r.level.name ++ [' '] ++ r.message

/-- The message for a token: its span, its code and its lexeme. -/
def Token.logMessage (token : Token) : Text :=
  decimal token.span.line ++ [':'] ++ decimal token.span.startColumn ++ ['-'] ++
    decimal token.span.endColumn ++ [' '] ++ token.code.name ++ [' '] ++ quotedText token.lexeme

/-- The message for an event. -/
def Event.logMessage : Event → Text
  | found diagnostic => diagnostic.display
  | resumed position skipped =>
    "recovered at ".toList ++ decimal position ++ " after skipping ".toList ++ decimal skipped ++
      " chars".toList

/-- The records that scanning a text leaves. -/
def scanLog (mode : QuoteMode) (t : Text) : List LogRecord :=
  let tokens := scan mode t
  tokens.map (fun token => ⟨.trace, token.logMessage⟩) ++
    [⟨.debug, "scanned ".toList ++ decimal t.length ++ " chars into ".toList ++
      decimal tokens.length ++ " tokens (".toList ++ decimal (tokens.countP Token.isError) ++
      " errors)".toList⟩]

/-- The records that checking a text leaves. -/
def checkLog (t : Text) : List LogRecord :=
  let events := checkEvents t
  events.map (fun event => ⟨.debug, event.logMessage⟩) ++
    [⟨.debug, "parsed ".toList ++ decimal t.length ++ " chars, ".toList ++
      decimal (events.filterMap Event.diagnostic?).length ++ " errors".toList⟩]

/-- The records that analyzing a text leaves. -/
def analysisLog (mode : QuoteMode) (t : Text) : List LogRecord :=
  scanLog mode t ++ checkLog t

end TypedList
