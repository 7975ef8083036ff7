import ConnectionUri.Text.Basic

/-!
# Console output

Texts that the console shows, and a table of two columns. The console reads tags in square
brackets, so a text is escaped before it is printed; what is shown differs from the text in two
places. A backslash before a bracket that opens no tag is swallowed, and a single backslash at the
end is doubled.

The console is as wide as its widest line. The width at which it breaks lines and narrows columns is
left out, and so are characters that take two columns or none.
-/

set_option autoImplicit false

namespace ConnectionUri.CommandLine

def startsTag (char : Char) : Bool :=
  char.isLower || ['#', '/', '@'].contains char

def opensTag : Text → Bool
  | '[' :: first :: rest =>
    startsTag first && (rest.dropWhile fun char => char != '[' && char != ']').head? == some ']'
  | _ => false

/-- A text without the backslashes before brackets that open no tag. -/
def withoutLooseEscapes : Text → Text
  | [] => []
  | char :: rest =>
    if char = '\\' ∧ rest.head? = some '[' ∧ !opensTag rest then withoutLooseEscapes rest
    else char :: withoutLooseEscapes rest

def finalBackslash (text : Text) : Text :=
  match text.reverse with
  | '\\' :: '\\' :: _ => []
  | '\\' :: _ => ['\\']
  | _ => []

/-- What the console shows of a text. -/
def shown (text : Text) : Text := withoutLooseEscapes text ++ finalBackslash text

namespace Table

/-- The characters of a horizontal rule. -/
structure Rule where
  left : Char
  line : Char
  middle : Char
  right : Char

def topRule : Rule := ⟨'┏', '━', '┳', '┓'⟩

def headerRule : Rule := ⟨'┡', '━', '╇', '┩'⟩

def bottomRule : Rule := ⟨'└', '─', '┴', '┘'⟩

def cellLines (cell : Text) : List Text := List.splitOn '\n' cell

def cellWidth (cell : Text) : Nat := (cellLines cell).foldl (fun width line => max width line.length) 0

/-- The width of a column: its widest cell. -/
def columnWidth (cells : List Text) : Nat :=
  cells.foldl (fun width cell => max width (cellWidth cell)) 0

/-- A horizontal rule over two columns, with one space of padding on both sides of each. -/
def ruleLine (rule : Rule) (first second : Nat) : Text :=
  rule.left :: List.replicate (first + 2) rule.line ++ rule.middle ::
    List.replicate (second + 2) rule.line ++ [rule.right]

def rowLine (bar : Char) (first second : Nat) (left right : Text) : Text :=
  [bar, ' '] ++ Text.padRight ' ' first left ++ [' ', bar, ' '] ++ Text.padRight ' ' second right ++
    [' ', bar]

/-- The lines of a row; the shorter cell is filled up with empty lines. -/
def rowLines (bar : Char) (first second : Nat) (row : Text × Text) : List Text :=
  let left := cellLines row.1
  let right := cellLines row.2
  (List.range (max left.length right.length)).map fun index =>
    rowLine bar first second (left.getD index []) (right.getD index [])

/-- A title centred over a width; an odd space goes to the right. -/
def titleLine (title : Text) (width : Nat) : Text :=
  let space := width - title.length
  List.replicate (space / 2) ' ' ++ title ++ List.replicate (space - space / 2) ' '

/-- The lines of a table of two columns under a title. -/
def lines (title : Text) (header : Text × Text) (rows : List (Text × Text)) : List Text :=
  let first := columnWidth (header.1 :: rows.map Prod.fst)
  let second := columnWidth (header.2 :: rows.map Prod.snd)
  [titleLine title (first + second + 7), ruleLine topRule first second] ++
    rowLines '┃' first second header ++ [ruleLine headerRule first second] ++
    rows.flatMap (rowLines '│' first second) ++ [ruleLine bottomRule first second]

end Table

end ConnectionUri.CommandLine
