import Workbench.Shell.Syntax

/-!
Reading of command lines.
-/

namespace Workbench.Shell

/-- A letter of a name; digits may not come first. -/
def isNameChar (c : Char) : Bool := c.isAlphanum || c == '_'

/-- Parameters with a name of one character. -/
def isSpecialParam (c : Char) : Bool := c.isDigit || c == '?' || c == '#' || c == '@' || c == '*' || c == '$'

/-- The octets of one character. -/
def octetsOf (c : Char) : Bytes := Bytes.ofText (String.singleton c)

/-- What stands in braces behind the name of a parameter: another text for it, and the brace. -/
def choice? (name : String) (notEmpty : Bool) : List Char → Option (Piece × List Char)
  | c :: rest =>
    let (text, behind) := rest.span (· != '}')
    if (c == '-' || c == '+') && !behind.isEmpty then
      some (.choice name notEmpty (c == '+') (Bytes.ofText (String.ofList text)), behind.drop 1)
    else none
  | [] => none

/-- What stands behind a dollar sign: something about a parameter, or nothing. -/
def param? (quoted : Bool) : List Char → Option (Piece × List Char)
  | '{' :: '#' :: c :: rest =>
    let (name, behind) := (c :: rest).span isNameChar
    if name.isEmpty then (if c == '}' then some (.param "#" quoted, rest) else none)
    else if behind.head? == some '}' then some (.size (String.ofList name), behind.drop 1) else none
  | '{' :: rest =>
    let (name, behind) := rest.span fun c => isNameChar c || c == '?' || c == '@' || c == '*' || c == '$'
    if name.isEmpty then none
    else
      match behind with
      | '}' :: rest => some (.param (String.ofList name) quoted, rest)
      | ':' :: rest => choice? (String.ofList name) true rest
      | rest => choice? (String.ofList name) false rest
  | c :: rest =>
    if isSpecialParam c then some (.param (String.singleton c) quoted, rest)
    else if isNameChar c then
      let (name, behind) := (c :: rest).span isNameChar
      some (.param (String.ofList name) quoted, behind)
    else none
  | [] => none

def Word.add (w : Word) (p : Piece) : Word := { w with pieces := w.pieces ++ [p] }

def Word.addText (w : Word) (cs : List Char) : Word := w.add (.text (Bytes.ofText (String.ofList cs)))

/-- Reads on inside double quotes.  `fuel` bounds the characters. -/
def readQuoted : (fuel : Nat) → Word → List Char → Option (Word × List Char)
  | 0, _, _ => none
  | fuel + 1, w, cs =>
    match cs with
    | [] => none
    | '"' :: rest => some (w, rest)
    | '\\' :: c :: rest =>
      if c == '\n' then readQuoted fuel w rest
      else if c == '$' || c == '"' || c == '\\' || c == '\x60' then readQuoted fuel (w.addText [c]) rest
      else readQuoted fuel (w.addText ['\\', c]) rest
    | '$' :: rest =>
      match param? true rest with
      | some (piece, rest) => readQuoted fuel (w.add piece) rest
      | none => readQuoted fuel (w.addText ['$']) rest
    | c :: rest => readQuoted fuel (w.addText [c]) rest

/-- A character that ends a word. -/
def endsWord (c : Char) : Bool := [' ', '\t', '\n', ';', '&', '|', '<', '>', '(', ')'].contains c

/-- Reads a word to its end.  `fuel` bounds the pieces. -/
def readWord : (fuel : Nat) → Word → List Char → Option (Word × List Char)
  | 0, _, _ => none
  | fuel + 1, w, cs =>
    match cs with
    | [] => some (w, [])
    | '\'' :: rest =>
      let (inside, behind) := rest.span (· != '\'')
      match behind with
      | _ :: rest => readWord fuel { w.addText inside with quoted := true } rest
      | [] => none
    | '"' :: rest => do
      let (w, rest) ← readQuoted (rest.length + 1) { w with quoted := true } rest
      readWord fuel w rest
    | '\\' :: '\n' :: rest => readWord fuel w rest
    | '\\' :: c :: rest => readWord fuel { w.addText [c] with quoted := true } rest
    | '$' :: rest =>
      match param? false rest with
      | some (piece, rest) => readWord fuel (w.add piece) rest
      | none => readWord fuel (w.addText ['$']) rest
    | c :: rest => if endsWord c then some (w, c :: rest) else readWord fuel (w.addText [c]) rest

/-- What stands behind the sign of a redirection of output or of errors. -/
def readRedirect (ofErrors : Bool) (cs : List Char) : Option (Redirect × List Char) :=
  match cs with
  | '&' :: '1' :: rest => some (⟨ofErrors, .output⟩, rest)
  | '&' :: '2' :: rest => some (⟨ofErrors, .errors⟩, rest)
  | cs => do
    let target := cs.dropWhile (· == ' ')
    let (w, rest) ← readWord (target.length + 1) {} target
    if w.pieces.isEmpty then none
    else some (⟨ofErrors, .nowhere⟩, rest)

/-- Reads the tokens of a text.  `fuel` bounds them. -/
def readTokens : (fuel : Nat) → List Char → Option (List Token)
  | 0, _ => none
  | fuel + 1, cs =>
    match cs with
    | [] => some []
    | ' ' :: rest | '\t' :: rest => readTokens fuel rest
    | '#' :: rest => readTokens fuel (rest.dropWhile (· != '\n'))
    | ';' :: rest | '\n' :: rest => (readTokens fuel rest).map (.joint .always :: ·)
    | '&' :: '&' :: rest => (readTokens fuel rest).map (.joint .onSuccess :: ·)
    | '|' :: '|' :: rest => (readTokens fuel rest).map (.joint .onFailure :: ·)
    | '>' :: rest | '1' :: '>' :: rest => do
      let (r, rest) ← readRedirect false rest
      return .redirect r :: (← readTokens fuel rest)
    | '2' :: '>' :: rest => do
      let (r, rest) ← readRedirect true rest
      return .redirect r :: (← readTokens fuel rest)
    | cs => do
      let (w, rest) ← readWord (cs.length + 1) {} cs
      if rest.length = cs.length then none
      else return .word w :: (← readTokens fuel rest)

/-- A word that gives a value to a variable: a name and an equals sign stand before the value. -/
def assignment? (w : Word) : Option (String × Word) :=
  let rec go : (name : Bytes) → List Piece → Option (Bytes × List Piece)
    | name, .text octets :: rest =>
      let (before, behind) := octets.span (· != 61)
      match behind with
      | _ :: value => some (name ++ before, .text value :: rest)
      | [] => go (name ++ before) rest
    | _, _ => none
  match go [] w.pieces with
  | some (name, pieces) =>
    let cs := name.map fun b => Char.ofNat b.toNat
    match cs with
    | c :: _ =>
      if cs.all isNameChar && !c.isDigit then some (String.ofList cs, ⟨pieces, true⟩) else none
    | [] => none
  | none => none

/-- Adds a token to a command. -/
def Command.add (c : Command) : Token → Command
  | .word w =>
    match assignment? w with
    | some a => if c.words.isEmpty then { c with assignments := c.assignments ++ [a] }
      else { c with words := c.words ++ [w] }
    | none => { c with words := c.words ++ [w] }
  | .redirect r => { c with redirects := c.redirects ++ [r] }
  | .joint _ => c

def Command.isEmpty (c : Command) : Bool :=
  c.assignments.isEmpty && c.words.isEmpty && c.redirects.isEmpty

/-- Groups tokens into commands. -/
def group : Joint → Command → List Token → Script
  | j, c, [] => if c.isEmpty then [] else [(j, c)]
  | j, c, .joint next :: rest =>
    if c.isEmpty then group (if next = .always then j else next) c rest
    else (j, c) :: group next {} rest
  | j, c, t :: rest => group j (c.add t) rest

/-- Reads a script; nothing if it is not one. -/
def read? (text : String) : Option Script :=
  (readTokens (text.length + 1) text.toList).map (group .always {})

end Workbench.Shell
