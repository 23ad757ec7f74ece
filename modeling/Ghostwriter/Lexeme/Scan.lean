import Ghostwriter.Lexeme.Basic
import Ghostwriter.Lexeme.Shape

/-!
The tolerant scanner. It reads a text line by line and never objects to a character: what it does
not know becomes a stray lexeme. It fails only where a string or a bracket is still open at the end,
or where a line is indented less than its block but not as much as any block around it.
-/

namespace Ghostwriter.Lexeme

open Ghostwriter.Text

inductive ScanError where
  | openString (start : Position)
  | openStatement (line : Nat)
  | unindent (line : Nat)
  deriving DecidableEq, Repr

def ScanError.message : ScanError → String
  | .openString start =>
    "('EOF in multi-line string', (" ++ toString start.line ++ ", " ++ toString start.column ++ "))"
  | .openStatement line => "('EOF in multi-line statement', (" ++ toString line ++ ", 0))"
  | .unindent line =>
    "unindent does not match any outer indentation level (<tokenize>, line " ++ toString line ++ ")"

-- What the rest of a line begins with, after blanks.
inductive Piece where
  -- nothing is left but blanks
  | nothing
  -- a backslash at the end of the line
  | continuation
  | lexeme (blanks length : Nat) (kind : LexemeKind)
  -- a string that goes on in the next line
  | openString (blanks : Nat) (opening : Opening)
  deriving DecidableEq, Repr

-- The length of a line end: a line feed, with a carriage return in front of it or not.
def breakLength : List Char → Nat
  | '\n' :: _ => 1
  | '\r' :: '\n' :: _ => 2
  | _ => 0

def commentLength (t : List Char) : Nat := (t.takeWhile fun c => c ≠ '\r' && c ≠ '\n').length

def wordLength (t : List Char) : Nat := (t.takeWhile isWordPart).length

-- A word whose first character starts no identifier counts as an operator.
def wordKind : List Char → LexemeKind
  | c :: _ => if isIdentifierStart c then .name else .operator
  | [] => .operator

-- A string on one line, or the first line of one that is continued.
def plainString (blanks : Nat) (opening : Opening) (body : List Char) : Option Piece :=
  (firstLine? opening.quote (body.drop (opening.letters + 1))).map fun
    | .closed n => .lexeme blanks (opening.letters + 1 + n) .string
    | .continued _ => .openString blanks { opening with tripled := false }

def tripledString (blanks : Nat) (opening : Opening) (body : List Char) : Piece :=
  match closeTripleLength? opening.quote (body.drop opening.length) with
  | some n => .lexeme blanks (opening.length + n) .string
  | none => .openString blanks opening

-- The rest of a line is `blanks` blanks, then `body`. A character that fits nothing, be it a blank
-- in front of such a character, is a stray lexeme of its own.
def pieceAfter (blanks : Nat) (body : List Char) : Piece :=
  match body with
  | [] => .nothing
  | c :: rest =>
    if c = '\\' && breakLength rest ≠ 0 then .continuation
    else if c = '#' then .lexeme blanks (commentLength body) .comment
    else
      match opening? body with
      | some opening =>
        if opening.tripled then tripledString blanks opening body
        else
          match plainString blanks opening body with
          | some piece => piece
          | none =>
            -- letters in front of a quote that opens no string are a word
            if opening.letters = 0 then .lexeme 0 1 .stray
            else .lexeme blanks (wordLength body) (wordKind body)
      | none =>
        if numberLength body ≠ 0 then .lexeme blanks (numberLength body) .number
        else if breakLength body ≠ 0 then .lexeme blanks (breakLength body) .newline
        else if operatorLength body ≠ 0 then .lexeme blanks (operatorLength body) .operator
        else if wordLength body ≠ 0 then .lexeme blanks (wordLength body) (wordKind body)
        else .lexeme 0 1 .stray

def piece (rest : List Char) : Piece :=
  let blanks := (rest.takeWhile isGap).length
  pieceAfter blanks (rest.drop blanks)

-- A string that is open at the end of a line: where it starts, its text so far, its quote, and
-- whether each of its lines must end in a backslash.
structure OpenString where
  start : Position
  text : Text
  quote : Char
  tripled : Bool
  deriving DecidableEq, Repr

structure ScanState where
  -- opening brackets minus closing ones
  depth : Int
  -- the line before ended in a backslash
  continued : Bool
  -- the columns of the blocks around, the innermost first
  margins : List Nat
  openString : Option OpenString
  -- A string over several lines must end each of them in a backslash. It is set by a quoted
  -- string that is continued, and taken back only where a string over several lines is closed.
  mustContinue : Bool
  -- The line before has nothing on it but blanks, not even a line end, so that nothing can follow.
  ended : Bool
  deriving DecidableEq, Repr

def ScanState.start : ScanState := ⟨0, false, [0], none, false, false⟩

-- A line end inside brackets ends no logical line.
def settleKind (depth : Int) : LexemeKind → LexemeKind
  | .newline => if 0 < depth then .lineBreak else .newline
  | kind => kind

-- Scans the rest of line number `row` from `column` on. The first argument bounds the number of
-- lexemes.
def scanRest (row : Nat) : Nat → Nat → List Char → ScanState → List Lexeme × ScanState
  | 0, _, _, state => ([], state)
  | fuel + 1, column, rest, state =>
    match piece rest with
    | .nothing => ([], state)
    | .continuation => ([], { state with continued := true })
    | .openString blanks opening =>
      let open? : OpenString :=
        ⟨⟨row, column + blanks⟩, rest.drop blanks, opening.quote, opening.tripled⟩
      ([], { state with
              openString := some open?
              mustContinue := state.mustContinue || !opening.tripled })
    | .lexeme blanks length kind =>
      let text := (rest.drop blanks).take length
      let first := column + blanks
      let lexeme : Lexeme :=
        ⟨settleKind state.depth kind, text, ⟨row, first⟩, ⟨row, first + length⟩⟩
      let (others, final) :=
        scanRest row fuel (first + length) (rest.drop (blanks + length))
          { state with depth := state.depth + lexeme.depthChange }
      (lexeme :: others, final)

-- The column that leading blanks lead to, and their number. A tab goes to the next multiple of
-- eight, a form feed to the start of the line.
def leadingColumn : Nat → List Char → Nat × Nat
  | column, ' ' :: rest => let (c, n) := leadingColumn (column + 1) rest; (c, n + 1)
  | column, '\t' :: rest => let (c, n) := leadingColumn ((column / 8 + 1) * 8) rest; (c, n + 1)
  | _, '\x0c' :: rest => let (c, n) := leadingColumn 0 rest; (c, n + 1)
  | column, _ => (column, 0)

-- A line without statements: its comment, if there is one, and its line end.
def idleLine (row blanks : Nat) (body : List Char) : List Lexeme :=
  let isBreak (c : Char) : Bool := c = '\r' || c = '\n'
  let comment := if body.head? = some '#' then dropRightWhile isBreak body else []
  let rest := body.drop comment.length
  let stop := blanks + comment.length
  let lineBreak : Lexeme := ⟨.lineBreak, rest, ⟨row, stop⟩, ⟨row, stop + rest.length⟩⟩
  if comment.isEmpty then [lineBreak]
  else [⟨.comment, comment, ⟨row, blanks⟩, ⟨row, stop⟩⟩, lineBreak]

-- Closes the blocks that are indented more than `column`: how many, and the margins that are left.
def dedents (column : Nat) : List Nat → Nat × List Nat
  | [] => (0, [])
  | margin :: margins =>
    if column < margin then
      let (n, left) := dedents column margins
      (n + 1, left)
    else (0, margin :: margins)

-- The lexemes for the indentation of a line with statements, and the new margins.
def indentation (row column blanks : Nat) (line : List Char) (margins : List Nat) :
    Except ScanError (List Lexeme × List Nat) :=
  if margins.headD 0 < column then
    .ok ([⟨.indent, line.take blanks, ⟨row, 0⟩, ⟨row, blanks⟩⟩], column :: margins)
  else if margins.contains column then
    let (n, left) := dedents column margins
    .ok (List.replicate n ⟨.dedent, [], ⟨row, blanks⟩, ⟨row, blanks⟩⟩, left)
  else .error (.unindent row)

-- The first line of a statement.
def scanFirst (row : Nat) (line : List Char) (state : ScanState) :
    Except ScanError (List Lexeme × ScanState) :=
  let (column, blanks) := leadingColumn 0 line
  match line.drop blanks with
  | [] => .ok ([], { state with ended := true })
  | c :: body =>
    if c = '#' || c = '\r' || c = '\n' then .ok (idleLine row blanks (c :: body), state)
    else
      match indentation row column blanks line state.margins with
      | .error e => .error e
      | .ok (margin, margins) =>
        let (lexemes, final) :=
          scanRest row line.length blanks (c :: body) { state with margins := margins }
        .ok (margin ++ lexemes, final)

-- Whether a line ends in a backslash.
def endsContinued (line : List Char) : Bool :=
  ['\\', '\n'].isSuffixOf line || ['\\', '\r', '\n'].isSuffixOf line

-- A further line of the open string `s`.
def scanString (row : Nat) (line : List Char) (s : OpenString) (state : ScanState) :
    List Lexeme × ScanState :=
  let length? := if s.tripled then closeTripleLength? s.quote line else closeLength? s.quote line
  match length? with
  | some n =>
    let lexeme : Lexeme := ⟨.string, s.text ++ line.take n, s.start, ⟨row, n⟩⟩
    let (others, final) :=
      scanRest row line.length n (line.drop n)
        { state with openString := none, mustContinue := false }
    (lexeme :: others, final)
  | none =>
    if state.mustContinue && !endsContinued line then
      ([⟨.stray, s.text ++ line, s.start, ⟨row, line.length⟩⟩], { state with openString := none })
    else ([], { state with openString := some { s with text := s.text ++ line } })

def scanLine (row : Nat) (line : List Char) (state : ScanState) :
    Except ScanError (List Lexeme × ScanState) :=
  match state.openString with
  | some s => .ok (scanString row line s state)
  | none =>
    if state.depth = 0 && !state.continued then scanFirst row line state
    else .ok (scanRest row line.length 0 line { state with continued := false })

def scanLines : Nat → List (List Char) → ScanState → Except ScanError (List Lexeme × ScanState)
  | _, [], state => .ok ([], state)
  | row, line :: rest, state =>
    match scanLine row line state with
    | .error e => .error e
    | .ok (lexemes, next) =>
      match scanLines (row + 1) rest next with
      | .error e => .error e
      | .ok (others, final) => .ok (lexemes ++ others, final)

-- Whether the last line has statements on it but no line end.
def lacksBreak (line : List Char) : Bool :=
  match line.getLast? with
  | none => false
  | some c => c ≠ '\r' && c ≠ '\n' && (trimLeft line).head? ≠ some '#'

-- The lexemes at the end: an empty line end where the last line lacks one, the ends of the open
-- blocks, and the end mark.
def closing (rows : Nat) (last : List Char) (margins : List Nat) : List Lexeme :=
  let stop : Position := ⟨rows + 1, 0⟩
  (if lacksBreak last then
      [⟨.newline, [], ⟨rows, last.length⟩, ⟨rows, last.length + 1⟩⟩]
    else []) ++
    List.replicate (margins.length - 1) ⟨.dedent, [], stop, stop⟩ ++ [⟨.endMarker, [], stop, stop⟩]

def scan (t : Text) : Except ScanError (List Lexeme) :=
  let rows := lines t
  match scanLines 1 rows ScanState.start with
  | .error e => .error e
  | .ok (lexemes, state) =>
    match state.openString with
    | some s => .error (.openString s.start)
    | none =>
      if state.depth ≠ 0 || state.continued then .error (.openStatement (rows.length + 1))
      else
        let rows := if state.ended then rows.dropLast else rows
        .ok (lexemes ++ closing rows.length (rows.getLastD []) state.margins)

end Ghostwriter.Lexeme
