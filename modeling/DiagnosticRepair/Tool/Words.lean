import DiagnosticRepair.Text.Basic

namespace DiagnosticRepair.Words

inductive SplitError where
  | openQuotation
  | nothingEscaped
  deriving DecidableEq, Repr

def SplitError.message : SplitError → Text
  | .openQuotation => "No closing quotation"
  | .nothingEscaped => "No escaped character"

inductive Mode where
  | between
  | inWord
  | quoted (mark : Char)
  | escaped
  | escapedInQuotes
  deriving DecidableEq, Repr

def isSeparator (c : Char) : Bool :=
  [' ', '\t', '\r', '\n'].contains c

def isQuote (c : Char) : Bool :=
  c == '\'' || c == '"'

/-- Words of a text that follows `word`, the part of the current word already read. Within double
quotes a backslash escapes only itself and the quote. -/
def splitFrom : Mode → Text → Text → Except SplitError (List Text)
  | .between, _, [] => .ok []
  | .inWord, word, [] => .ok [word]
  | .quoted _, _, [] => .error .openQuotation
  | .escaped, _, [] => .error .nothingEscaped
  | .escapedInQuotes, _, [] => .error .nothingEscaped
  | .between, _, c :: rest =>
      if isSeparator c then splitFrom .between [] rest
      else if c == '\\' then splitFrom .escaped [] rest
      else if isQuote c then splitFrom (.quoted c) [] rest
      else splitFrom .inWord [c] rest
  | .inWord, word, c :: rest =>
      if isSeparator c then (splitFrom .between [] rest).map (word :: ·)
      else if c == '\\' then splitFrom .escaped word rest
      else if isQuote c then splitFrom (.quoted c) word rest
      else splitFrom .inWord (word ++ [c]) rest
  | .quoted mark, word, c :: rest =>
      if c == mark then splitFrom .inWord word rest
      else if c == '\\' && mark == '"' then splitFrom .escapedInQuotes word rest
      else splitFrom (.quoted mark) (word ++ [c]) rest
  | .escaped, word, c :: rest => splitFrom .inWord (word ++ [c]) rest
  | .escapedInQuotes, word, c :: rest =>
      if c == '"' || c == '\\' then splitFrom (.quoted '"') (word ++ [c]) rest
      else splitFrom (.quoted '"') (word ++ ['\\', c]) rest

def split (line : Text) : Except SplitError (List Text) :=
  splitFrom .between [] line

def isPlain (c : Char) : Bool :=
  c.isAlphanum || ['_', '@', '%', '+', '=', ':', ',', '.', '/', '-'].contains c

def quote (word : Text) : Text :=
  if !word.isEmpty && word.all isPlain then word
  else '\'' :: word.flatMap (fun c => if c = '\'' then "'\"'\"'".toList else [c]) ++ ['\'']

def join (words : List Text) : Text :=
  Text.join [' '] (words.map quote)

end DiagnosticRepair.Words
