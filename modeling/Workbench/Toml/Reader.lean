import Workbench.Number.Decimal
import Workbench.Toml

/-!
Reading of TOML documents.
-/

namespace Workbench.Toml

/-- What stands behind something that has been read, or nothing if it could not be read. -/
abbrev Reads (α : Type) := List Char → Option (α × List Char)

def isGap (c : Char) : Bool := c == ' ' || c == '\t'

def skipGap (cs : List Char) : List Char := cs.dropWhile isGap

/-- A character that texts and comments may hold as it stands, ends of lines apart. -/
def isPlain (c : Char) : Bool := c == '\t' || (32 ≤ c.toNat && c.toNat ≠ 127)

/-- The end of a line. -/
def lineEnd? : List Char → Option (List Char)
  | '\n' :: rest | '\r' :: '\n' :: rest => some rest
  | _ => none

/-- The rest of a line that holds nothing, or a comment. -/
def endOfLine? (cs : List Char) : Option (List Char) :=
  let cs := match skipGap cs with
    | '#' :: rest => rest.dropWhile isPlain
    | cs => cs
  if cs.isEmpty then some [] else lineEnd? cs

/-- Skips gaps, comments and ends of lines.  `fuel` bounds the lines. -/
def skipLines : (fuel : Nat) → List Char → List Char
  | 0, cs => cs
  | fuel + 1, cs =>
    let cs := skipGap cs
    match cs with
    | '#' :: rest => skipLines fuel (rest.dropWhile isPlain)
    | cs =>
      match lineEnd? cs with
      | some rest => skipLines fuel rest
      | none => cs

def isHex (c : Char) : Bool := c.isDigit || ('a' ≤ c && c ≤ 'f') || ('A' ≤ c && c ≤ 'F')

def hexValue (c : Char) : Nat :=
  if c.isDigit then c.toNat - 48 else if 'a' ≤ c then c.toNat - 87 else c.toNat - 55

def digitsValue (base : Nat) (ds : List Char) : Nat := ds.foldl (fun n c => base * n + hexValue c) 0

/-- A character by so many digits of its number. -/
def scalar? (count : Nat) (cs : List Char) : Option (Char × List Char) :=
  let ds := cs.take count
  let n := digitsValue 16 ds
  if ds.length = count && ds.all isHex && (n < 0xD800 || (0xDFFF < n && n ≤ 0x10FFFF))
  then some (Char.ofNat n, cs.drop count) else none

/-- What stands behind a backslash. -/
def escape? : Reads Char
  | 'b' :: rest => some ('\x08', rest)
  | 't' :: rest => some ('\t', rest)
  | 'n' :: rest => some ('\n', rest)
  | 'f' :: rest => some ('\x0c', rest)
  | 'r' :: rest => some ('\r', rest)
  | '"' :: rest => some ('"', rest)
  | '\\' :: rest => some ('\\', rest)
  | 'u' :: rest => scalar? 4 rest
  | 'U' :: rest => scalar? 8 rest
  | _ => none

/-- The rest of a text in double quotes.  `fuel` bounds the characters. -/
def basicRest : (fuel : Nat) → (read : List Char) → Reads String
  | 0, _, _ => none
  | fuel + 1, read, cs =>
    match cs with
    | '"' :: rest => some (String.ofList read.reverse, rest)
    | '\\' :: rest => do
      let (c, rest) ← escape? rest
      basicRest fuel (c :: read) rest
    | c :: rest => if isPlain c then basicRest fuel (c :: read) rest else none
    | [] => none

/-- A text in single quotes, behind the first. -/
def literalRest (cs : List Char) : Option (String × List Char) :=
  let (inside, behind) := cs.span fun c => isPlain c && c != '\''
  match behind with
  | '\'' :: rest => some (String.ofList inside, rest)
  | _ => none

/-- A text may begin on the line below its quotes. -/
def dropFirstLine (cs : List Char) : List Char := (lineEnd? cs).getD cs

/-- Behind the backslash at the end of a line all gaps and ends of lines are skipped. -/
def skipBlankLines : List Char → List Char
  | '\r' :: '\n' :: rest => skipBlankLines rest
  | c :: rest => if isGap c || c == '\n' then skipBlankLines rest else c :: rest
  | [] => []

/-- The rest of a text over lines in three quotes of a kind.  Up to two quotes can stand before the ones
that end it.  `fuel` bounds the characters. -/
def linesRest (quote : Char) (escapes : Bool) : (fuel : Nat) → (read : List Char) → Reads String
  | 0, _, _ => none
  | fuel + 1, read, cs =>
    let quotes := (cs.takeWhile (· == quote)).length
    if 3 ≤ quotes then
      if 5 < quotes then none
      else some (String.ofList (List.replicate (quotes - 3) quote ++ read).reverse, cs.drop quotes)
    else
      match cs with
      | '\r' :: '\n' :: rest => linesRest quote escapes fuel ('\n' :: read) rest
      | '\n' :: rest => linesRest quote escapes fuel ('\n' :: read) rest
      | '\\' :: rest =>
        if escapes then
          let behind := skipGap rest
          match lineEnd? behind with
          | some rest => linesRest quote escapes fuel read (skipBlankLines rest)
          | none => do
            let (c, rest) ← escape? rest
            linesRest quote escapes fuel (c :: read) rest
        else linesRest quote escapes fuel ('\\' :: read) rest
      | c :: rest => if isPlain c then linesRest quote escapes fuel (c :: read) rest else none
      | [] => none

/-- A text. -/
def text? : Reads String
  | '"' :: '"' :: '"' :: rest => linesRest '"' true (rest.length + 1) [] (dropFirstLine rest)
  | '\'' :: '\'' :: '\'' :: rest => linesRest '\'' false (rest.length + 1) [] (dropFirstLine rest)
  | '"' :: rest => basicRest (rest.length + 1) [] rest
  | '\'' :: rest => literalRest rest
  | _ => none

def isKeyChar (c : Char) : Bool := c.isAlphanum || c == '_' || c == '-'

/-- A key without dots. -/
def simpleKey? : Reads String
  | '"' :: rest => basicRest (rest.length + 1) [] rest
  | '\'' :: rest => literalRest rest
  | cs =>
    let (name, rest) := cs.span isKeyChar
    if name.isEmpty then none else some (String.ofList name, rest)

/-- A key, with gaps around its dots and behind it.  `fuel` bounds its parts. -/
def key? : (fuel : Nat) → Reads (List String)
  | 0, _ => none
  | fuel + 1, cs => do
    let (part, rest) ← simpleKey? (skipGap cs)
    match skipGap rest with
    | '.' :: rest =>
      let (parts, rest) ← key? fuel rest
      return (part :: parts, rest)
    | rest => return ([part], rest)

/-- Digits of a base with underscores between them, which are left out. -/
def digits? (isDigit : Char → Bool) (cs : List Char) : Option (List Char × List Char) :=
  let (run, rest) := cs.span fun c => isDigit c || c == '_'
  let apart := (run.zip (run.drop 1)).all fun (a, b) => a != '_' || b != '_'
  if run.isEmpty || run.head? == some '_' || run.getLast? == some '_' || !apart then none
  else some (run.filter (· != '_'), rest)

/-- An integer that fits in a word. -/
def integer? (n : Int) : Option Toml :=
  if -0x8000000000000000 ≤ n && n < 0x8000000000000000 then (WordInt.ofInt? n).map .int else none

/-- A number of a base that its prefix names. -/
def prefixed? (base : Nat) (isDigit : Char → Bool) (cs : List Char) : Option (Toml × List Char) := do
  let (ds, rest) ← digits? isDigit cs
  return (← integer? (Int.ofNat (digitsValue base ds)), rest)

/-- The part of a number behind its point. -/
def fraction? : Reads (List Char)
  | '.' :: rest => do
    let (ds, rest) ← digits? Char.isDigit rest
    return ('.' :: ds, rest)
  | cs => some ([], cs)

/-- The exponent of a number. -/
def exponent? : Reads (List Char)
  | c :: rest =>
    if c == 'e' || c == 'E' then
      let (sign, rest) := match rest with
        | '+' :: rest => ([], rest)
        | '-' :: rest => (['-'], rest)
        | rest => ([], rest)
      do
        let (ds, rest) ← digits? Char.isDigit rest
        return ('e' :: sign ++ ds, rest)
    else some ([], c :: rest)
  | [] => some ([], [])

/-- A decimal number, with its sign already read. -/
def decimal? (negative : Bool) (cs : List Char) : Option (Toml × List Char) := do
  let (ds, rest) ← digits? Char.isDigit cs
  if 1 < ds.length && ds.head? == some '0' then none
  let (fraction, rest) ← fraction? rest
  let (exponent, rest) ← exponent? rest
  if fraction.isEmpty && exponent.isEmpty then
    let n := Int.ofNat (digitsValue 10 ds)
    return (← integer? (if negative then -n else n), rest)
  else
    let sign := if negative then ['-'] else []
    let x ← Decimal.parse? (String.ofList (sign ++ ds ++ fraction ++ exponent))
    if x.isFinite then some (.double x, rest) else none

/-- A word that stands for a value. -/
def word? (word : String) (value : Toml) (cs : List Char) : Option (Toml × List Char) :=
  if word.toList.isPrefixOf cs then some (value, cs.drop word.length) else none

/-- A number. -/
def number? (cs : List Char) : Option (Toml × List Char) :=
  let signed (negative : Bool) (cs : List Char) : Option (Toml × List Char) :=
    word? "inf" (.double (Binary64.infinity negative)) cs <|> word? "nan" (.double Binary64.nan) cs
      <|> decimal? negative cs
  match cs with
  | '0' :: 'x' :: rest => prefixed? 16 isHex rest
  | '0' :: 'o' :: rest => prefixed? 8 (fun c => '0' ≤ c && c ≤ '7') rest
  | '0' :: 'b' :: rest => prefixed? 2 (fun c => c == '0' || c == '1') rest
  | '+' :: rest => signed false rest
  | '-' :: rest => signed true rest
  | cs => signed false cs

/-- Digits, so many of them. -/
def fixed? (count : Nat) (cs : List Char) : Option (Nat × List Char) :=
  let ds := cs.take count
  if ds.length = count && ds.all Char.isDigit then some (digitsValue 10 ds, cs.drop count) else none

/-- The number of days in a month. -/
def daysIn (year month : Nat) : Nat :=
  if month = 2 then
    if (year % 4 = 0 && year % 100 ≠ 0) || year % 400 = 0 then 29 else 28
  else if [4, 6, 9, 11].contains month then 30 else 31

/-- A character that has to be there. -/
def expect? (c : Char) : List Char → Option (List Char)
  | d :: rest => if c == d then some rest else none
  | [] => none

/-- What stands behind a date. -/
def date? (cs : List Char) : Option (List Char) := do
  let (year, cs) ← fixed? 4 cs
  let (month, cs) ← fixed? 2 (← expect? '-' cs)
  let (day, cs) ← fixed? 2 (← expect? '-' cs)
  if month < 1 || 12 < month || day < 1 || daysIn year month < day then none else some cs

/-- What stands behind a time. -/
def time? (cs : List Char) : Option (List Char) := do
  let (hour, cs) ← fixed? 2 cs
  let (minute, cs) ← fixed? 2 (← expect? ':' cs)
  let (second, cs) ← fixed? 2 (← expect? ':' cs)
  if 23 < hour || 59 < minute || 60 < second then none
  match cs with
  | '.' :: rest =>
    let behind := rest.dropWhile Char.isDigit
    if behind.length = rest.length then none else some behind
  | cs => some cs

/-- What stands behind an offset of a time. -/
def offset? : List Char → Option (List Char)
  | 'Z' :: rest | 'z' :: rest => some rest
  | c :: rest =>
    if c == '+' || c == '-' then do
      let (hours, cs) ← fixed? 2 rest
      let (minutes, cs) ← fixed? 2 (← expect? ':' cs)
      if 23 < hours || 59 < minutes then none else some cs
    else none
  | [] => none

/-- What stands behind a date, a time or both. -/
def moment? (cs : List Char) : Option (List Char) :=
  match date? cs with
  | some behind =>
    let timed := match behind with
      | c :: rest => if c == 'T' || c == 't' || c == ' ' then time? rest else none
      | [] => none
    match timed with
    | some rest => some ((offset? rest).getD rest)
    | none => some behind
  | none => time? cs

/-- Something that begins like a date or a time. -/
def looksLikeMoment (cs : List Char) : Bool :=
  (cs.take 4).all Char.isDigit && cs[4]? == some '-' || (cs.take 2).all Char.isDigit && cs[2]? == some ':'

/-- A value that is not made of others. -/
def plainValue? (cs : List Char) : Option (Toml × List Char) :=
  match cs with
  | '"' :: _ | '\'' :: _ => (text? cs).map fun (s, rest) => (.text s, rest)
  | 't' :: _ => word? "true" (.bool true) cs
  | 'f' :: _ => word? "false" (.bool false) cs
  | cs =>
    if looksLikeMoment cs then do
      let rest ← moment? cs
      return (.moment (String.ofList (cs.take (cs.length - rest.length))), rest)
    else number? cs

/-- Values may stand in each other so deep. -/
def maxDepth : Nat := 80

mutual

/-- A value.  `fuel` bounds the characters, `depth` the values around it. -/
def value? : (fuel depth : Nat) → Reads Toml
  | 0, _, _ => none
  | fuel + 1, depth, cs =>
    match cs with
    | '[' :: rest =>
      if depth = 0 then none
      else (items? fuel (depth - 1) (skipLines (rest.length + 1) rest)).map fun (items, rest) =>
        (.array items, rest)
    | '{' :: rest =>
      if depth = 0 then none
      else
        match skipGap rest with
        | '}' :: rest => some (.inline [], rest)
        | cs => (pairs? fuel (depth - 1) [] cs).map fun (es, rest) => (.inline es, rest)
    | cs => plainValue? cs

/-- The values of an array up to its end. -/
def items? : (fuel depth : Nat) → Reads (List Toml)
  | 0, _, _ => none
  | fuel + 1, depth, cs =>
    match cs with
    | ']' :: rest => some ([], rest)
    | cs => do
      let (item, rest) ← value? fuel depth cs
      match skipLines (rest.length + 1) rest with
      | ',' :: rest =>
        let (items, rest) ← items? fuel depth (skipLines (rest.length + 1) rest)
        return (item :: items, rest)
      | ']' :: rest => return ([item], rest)
      | _ => none

/-- The entries of a table on one line up to its end. -/
def pairs? : (fuel depth : Nat) → (read : Entries) → Reads Entries
  | 0, _, _, _ => none
  | fuel + 1, depth, read, cs => do
    let (path, rest) ← key? (cs.length + 1) cs
    let (value, rest) ← value? fuel depth (skipGap (← expect? '=' rest))
    let read ← read.addDotted? path.dropLast (← path.getLast?) value
    match skipGap rest with
    | ',' :: rest => pairs? fuel depth read rest
    | '}' :: rest => return (read, rest)
    | _ => none

end

/-- One line: a header, an entry or nothing. -/
def line? (d : Draft) (cs : List Char) : Option (Draft × List Char) :=
  match skipGap cs with
  | '[' :: '[' :: rest => do
    let (path, rest) ← key? (rest.length + 1) rest
    let rest ← expect? ']' (← expect? ']' rest)
    return (← d.beginRow? path, ← endOfLine? rest)
  | '[' :: rest => do
    let (path, rest) ← key? (rest.length + 1) rest
    return (← d.begin? path, ← endOfLine? (← expect? ']' rest))
  | cs =>
    match endOfLine? cs with
    | some rest => some (d, rest)
    | none => do
      let (path, rest) ← key? (cs.length + 1) cs
      let (value, rest) ← value? (cs.length + 1) maxDepth (skipGap (← expect? '=' rest))
      return (← d.add? path.dropLast (← path.getLast?) value, ← endOfLine? rest)

/-- The lines of a document.  `fuel` bounds them. -/
def lines? : (fuel : Nat) → Draft → List Char → Option Entries
  | 0, _, _ => none
  | fuel + 1, d, cs =>
    if cs.isEmpty then d.finish?
    else do
      let (d, rest) ← line? d cs
      lines? fuel d rest

/-- The entries of a document. -/
def parse? (document : String) : Option Entries :=
  let cs := match document.toList with
    | '\uFEFF' :: rest => rest
    | cs => cs
  lines? (cs.length + 1) {} cs

end Workbench.Toml
