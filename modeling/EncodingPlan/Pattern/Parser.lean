import EncodingPlan.Pattern.Property
import EncodingPlan.Pattern.Syntax

/-! Reading patterns. Each reader takes the characters ahead and answers what it read and the
characters left, or nothing when the text is not well formed. Verbose mode, in which blanks and
comments between the parts of a pattern do not count, is passed along, for a flag can turn it on
in the middle of a text. -/

namespace EncodingPlan.Pattern

open Text

/-- Passes blanks and comments; `inComment` says whether the text starts inside a comment. -/
def passBlanks (inComment : Bool) : List Char → List Char
  | [] => []
  | c :: cs =>
    if inComment then passBlanks (c != '\n') cs
    else if isBlank c then passBlanks false cs
    else if c = '#' then passBlanks true cs
    else c :: cs

/-- Passes what does not count in verbose mode. -/
def pass (verbose : Bool) (cs : List Char) : List Char :=
  if verbose then passBlanks false cs else cs

/-! ## Numbers and escapes -/

def hexValue? (c : Char) : Option Nat :=
  if '0' ≤ c ∧ c ≤ '9' then some (c.toNat - '0'.toNat)
  else if 'a' ≤ c ∧ c ≤ 'f' then some (c.toNat - 'a'.toNat + 10)
  else if 'A' ≤ c ∧ c ≤ 'F' then some (c.toNat - 'A'.toNat + 10)
  else none

def charOfCode? (code : Nat) : Option Char :=
  if code.isValidChar then some (Char.ofNat code) else none

/-- Exactly `count` hexadecimal digits after the value read so far. -/
def hexDigits (verbose : Bool) : Nat → Nat → List Char → Option (Nat × List Char)
  | 0, value, cs => some (value, cs)
  | _ + 1, _, [] => none
  | count + 1, value, c :: cs => do
    hexDigits verbose count (value * 16 + (← hexValue? c)) (pass verbose cs)

/-- The text up to the closing brace, without what does not count in verbose mode. -/
def braced (verbose inComment : Bool) : List Char → Option (List Char × List Char)
  | [] => none
  | c :: cs =>
    if inComment then braced verbose (c != '\n') cs
    else if verbose && isBlank c then braced verbose false cs
    else if verbose && c == '#' then braced verbose true cs
    else if c = '}' then some ([], cs)
    else (braced verbose false cs).map fun (inside, rest) => (c :: inside, rest)

/-- A character given by `count` hexadecimal digits, or by any number of them in braces. -/
def hexChar (verbose : Bool) (count : Nat) (cs : List Char) : Option (Literal × List Char) :=
  match pass verbose cs with
  | '{' :: rest => do
    let (inside, rest) ← braced verbose false rest
    if inside.isEmpty then none
    else
      let digits ← inside.mapM hexValue?
      let c ← charOfCode? (digits.foldl (fun value digit => value * 16 + digit) 0)
      pure (⟨c, false⟩, rest)
  | rest => do
    let (code, rest) ← hexDigits verbose count 0 rest
    let c ← charOfCode? code
    pure (⟨c, count == 2⟩, rest)

/-- The place of the first occurrence of `mark`: what stands before it and what after. -/
def splitAtFirst (mark : List Char) : List Char → Option (List Char × List Char)
  | [] => none
  | c :: cs =>
    if mark.isPrefixOf (c :: cs) then some ([], (c :: cs).drop mark.length)
    else (splitAtFirst mark cs).map fun (before, after) => (c :: before, after)

/-- A property in braces: a name, or a name and a value joined by one of three signs. -/
def propertyQuery (inside : List Char) : PropertyQuery :=
  match splitAtFirst ['!', '='] inside with
  | some (name, value) => .byValue name value true
  | none =>
    match splitAtFirst [':'] inside with
    | some (name, value) => .byValue name value false
    | none =>
      match splitAtFirst ['='] inside with
      | some (name, value) => .byValue name value false
      | none => .byName inside

def property (verbose : Bool) (cs : List Char) : Option (PropertyQuery × List Char) :=
  match pass verbose cs with
  | '{' :: rest => (braced verbose false rest).map fun (inside, rest) => (propertyQuery inside, rest)
  | '\\' :: _ => none
  | c :: rest => some (.byName [c], rest)
  | [] => none

/-- Characters that an escape always makes literal. -/
def isMeta (c : Char) : Bool := "\\.+*?()|[]\x7b\x7d^$#&-~".toList.contains c

/-- Characters that may be escaped though they need not be. -/
def isEscapable (c : Char) : Bool :=
  isMeta c || (c.toNat < 0x80 && !c.isAlphanum && c != '<' && c != '>')

def specialBoundaries : List (String × Anchor) :=
  [("start", .wordStart), ("end", .wordEnd), ("start-half", .wordStartHalf),
   ("end-half", .wordEndHalf)]

/-- A word boundary, with the special kind that may follow in braces. Braces that do not open with
a letter or a hyphen are a count and are left to the reader of repetitions. -/
def wordBoundary (verbose : Bool) (cs : List Char) : Option (Anchor × List Char) :=
  match cs with
  | '{' :: rest =>
    match pass verbose rest with
    | [] => none
    | c :: _ =>
      if c.isAlpha || c == '-' then do
        let (inside, rest) ← braced verbose false rest
        let (_, anchor) ← specialBoundaries.find? fun (name, _) => name.toList == inside
        pure (anchor, rest)
      else some (.wordBoundary, cs)
  | _ => some (.wordBoundary, cs)

/-- What follows a backslash. -/
def escape (verbose : Bool) : List Char → Option (Syntax × List Char)
  | [] => none
  | c :: cs =>
    let literal (c : Char) : Option (Syntax × List Char) := some (.literal ⟨c, false⟩, cs)
    match c with
    | 'x' => (hexChar verbose 2 cs).map fun (l, rest) => (.literal l, rest)
    | 'u' => (hexChar verbose 4 cs).map fun (l, rest) => (.literal l, rest)
    | 'U' => (hexChar verbose 8 cs).map fun (l, rest) => (.literal l, rest)
    | 'p' => (property verbose cs).map fun (q, rest) => (.property q false, rest)
    | 'P' => (property verbose cs).map fun (q, rest) => (.property q true, rest)
    | 'd' => some (.shorthand .digit false, cs)
    | 'D' => some (.shorthand .digit true, cs)
    | 's' => some (.shorthand .blank false, cs)
    | 'S' => some (.shorthand .blank true, cs)
    | 'w' => some (.shorthand .word false, cs)
    | 'W' => some (.shorthand .word true, cs)
    | 'a' => literal '\x07'
    | 'f' => literal '\x0C'
    | 't' => literal '\t'
    | 'n' => literal '\n'
    | 'r' => literal '\r'
    | 'v' => literal '\x0B'
    | 'A' => some (.anchor .textStart, cs)
    | 'z' => some (.anchor .textEnd, cs)
    | 'b' => (wordBoundary verbose cs).map fun (a, rest) => (.anchor a, rest)
    | 'B' => some (.anchor .notWordBoundary, cs)
    | '<' => some (.anchor .wordStart, cs)
    | '>' => some (.anchor .wordEnd, cs)
    | c => if isEscapable c then literal c else none

/-! ## Bracketed classes -/

def posixClasses : List (String × PosixClass) :=
  [("alnum", .alnum), ("alpha", .alpha), ("ascii", .ascii), ("blank", .blank), ("cntrl", .cntrl),
   ("digit", .digit), ("graph", .graph), ("lower", .lower), ("print", .print), ("punct", .punct),
   ("space", .space), ("upper", .upper), ("word", .word), ("xdigit", .xdigit)]

/-- A class written `[:name:]` or `[:^name:]`. Any other text is no such class. -/
def posixClass (cs : List Char) : Option (ClassSyntax × List Char) :=
  let named (negated : Bool) (cs : List Char) : Option (ClassSyntax × List Char) :=
    match cs.dropWhile (· != ':') with
    | ':' :: ']' :: rest => do
      let name := cs.takeWhile (· != ':')
      let (_, p) ← posixClasses.find? fun (known, _) => known.toList == name
      pure (.posix p negated, rest)
    | _ => none
  match cs with
  | '[' :: ':' :: '^' :: rest => named true rest
  | '[' :: ':' :: rest => named false rest
  | _ => none

/-- An item of a class that can also be an end of a range if it is a literal. -/
def classItem (verbose : Bool) : List Char → Option (ClassSyntax × List Char)
  | '\\' :: cs => do
    match ← escape verbose cs with
    | (.literal l, rest) => pure (.literal l, rest)
    | (.shorthand s negated, rest) => pure (.shorthand s negated, rest)
    | (.property q negated, rest) => pure (.property q negated, rest)
    | _ => none
  | c :: cs => some (.literal ⟨c, false⟩, cs)
  | [] => none

/-- The character by which a hyphen before it is judged. In verbose mode that is the first one after
blanks and the sign of a comment, even if it is part of the comment. -/
def afterHyphen (verbose : Bool) (cs : List Char) : Option Char :=
  if !verbose then cs.head?
  else match cs.dropWhile isBlank with
    | '#' :: rest => (rest.dropWhile isBlank).head?
    | rest => rest.head?

/-- A range, or an item alone where no hyphen follows, or one that belongs to what comes next. -/
def classRange (verbose : Bool) (cs : List Char) : Option (ClassSyntax × List Char) := do
  let (first, rest) ← classItem verbose cs
  match pass verbose rest with
  | '-' :: rest' =>
    match afterHyphen verbose rest' with
    | some ']' | some '-' => pure (first, '-' :: rest')
    | _ => do
      let (last, rest) ← classItem verbose (pass verbose rest')
      match first, last with
      | .literal a, .literal b => if a.char ≤ b.char then pure (.range a b, rest) else none
      | _, _ => none
  | rest' => pure (first, rest')

/-- Hyphens at the very start of a class are literal. -/
def leadingHyphens (verbose : Bool) : Nat → List Char → List ClassSyntax × List Char
  | fuel + 1, '-' :: cs =>
    let (items, rest) := leadingHyphens verbose fuel (pass verbose cs)
    (.literal ⟨'-', false⟩ :: items, rest)
  | _, cs => ([], cs)

/-- The opening of a class, after the bracket: whether it is negated, and the literals that would
mean something else further on. -/
def classOpening (verbose : Bool) (fuel : Nat) (cs : List Char) :
    Bool × List ClassSyntax × List Char :=
  let cs := pass verbose cs
  let (negated, cs) := match cs with
    | '^' :: rest => (true, pass verbose rest)
    | cs => (false, cs)
  match leadingHyphens verbose fuel cs with
  | ([], ']' :: rest) => (negated, [.literal ⟨']', false⟩], pass verbose rest)
  | (items, rest) => (negated, items, rest)

/-- The class so far, with the operation that waits for its right side. -/
def closeOperation (waiting : Option (SetOperation × ClassSyntax)) (items : List ClassSyntax) :
    ClassSyntax :=
  match waiting with
  | none => .ofItems items.reverse
  | some (op, left) => .operation op left (.ofItems items.reverse)

/-- The rest of a class up to its closing bracket; `items` are those read, the last one first. -/
def classBody (verbose : Bool) :
    Nat → Option (SetOperation × ClassSyntax) → List ClassSyntax → List Char →
      Option (ClassSyntax × List Char)
  | 0, _, _, _ => none
  | fuel + 1, waiting, items, cs =>
    let operation (op : SetOperation) (rest : List Char) :=
      classBody verbose fuel (some (op, closeOperation waiting items)) [] rest
    match pass verbose cs with
    | [] => none
    | ']' :: rest => some (closeOperation waiting items, rest)
    | '[' :: rest =>
      match posixClass ('[' :: rest) with
      | some (item, rest) => classBody verbose fuel waiting (item :: items) rest
      | none => do
        let (negated, first, rest) := classOpening verbose fuel rest
        let (body, rest) ← classBody verbose fuel none first.reverse rest
        classBody verbose fuel waiting (.bracketed body negated :: items) rest
    | '&' :: '&' :: rest => operation .intersection rest
    | '-' :: '-' :: rest => operation .difference rest
    | '~' :: '~' :: rest => operation .symmetricDifference rest
    | cs => do
      let (item, rest) ← classRange verbose cs
      classBody verbose fuel waiting (item :: items) rest

/-- A class, after its opening bracket. -/
def bracketed (verbose : Bool) (fuel : Nat) (cs : List Char) : Option (Syntax × List Char) := do
  let (negated, first, rest) := classOpening verbose fuel cs
  let (body, rest) ← classBody verbose fuel none first.reverse rest
  pure (.bracketed body negated, rest)

/-! ## Repetition -/

/-- The digits of a number with the value read so far. -/
def decimalDigits (verbose inComment : Bool) (value : Option Nat) :
    List Char → Option Nat × List Char
  | [] => (value, [])
  | c :: cs =>
    if inComment then decimalDigits verbose (c != '\n') value cs
    else if '0' ≤ c ∧ c ≤ '9' then
      decimalDigits verbose false (some (value.getD 0 * 10 + (c.toNat - '0'.toNat))) cs
    else if value.isSome && verbose && isBlank c then decimalDigits verbose false value cs
    else if value.isSome && verbose && c == '#' then decimalDigits verbose true value cs
    else (value, c :: cs)

/-- One more than the largest number of 32 bits. -/
def countLimit : Nat := 4294967296

/-- A number of 32 bits, with blanks around it. -/
def decimal (verbose : Bool) (cs : List Char) : Option (Nat × List Char) :=
  match decimalDigits verbose false none (cs.dropWhile isBlank) with
  | (some value, rest) =>
    if value < countLimit then some (value, pass verbose (rest.dropWhile isBlank)) else none
  | (none, _) => none

/-- The bounds of a repetition, after the opening brace. -/
def bounds (verbose : Bool) (cs : List Char) : Option (Nat × Option Nat × List Char) := do
  let (least, rest) ← decimal verbose (pass verbose cs)
  match rest with
  | '}' :: rest => pure (least, some least, rest)
  | ',' :: rest =>
    match pass verbose rest with
    | '}' :: rest => pure (least, none, rest)
    | rest => do
      let (most, rest) ← decimal verbose rest
      match rest with
      | '}' :: rest => if least ≤ most then pure (least, some most, rest) else none
      | _ => none
  | _ => none

/-- Whether a repetition is marked, and what follows. -/
def passMark : List Char → Bool × List Char
  | '?' :: rest => (true, rest)
  | rest => (false, rest)

/-- Repeats the last part; there has to be one that is not a mere setting of flags. -/
def repeatLast (least : Nat) (most : Option Nat) (marked : Bool) :
    List Syntax → Option (List Syntax)
  | [] | .empty :: _ | .flags _ :: _ => none
  | part :: parts => some (.repetition part least most marked :: parts)

/-! ## Groups -/

def flag? : Char → Option Flag
  | 'i' => some .ignoreCase
  | 'm' => some .multiLine
  | 's' => some .dotMatchesNewline
  | 'U' => some .swapGreed
  | 'u' => some .unicode
  | 'R' => some .carriageReturn
  | 'x' => some .verbose
  | _ => none

/-- Flags up to the sign that ends them, which is answered last. After a hyphen, of which there
may be one, flags are turned off; no flag may come twice, nor the hyphen last. -/
def flagEdits (on : Bool) (edits : FlagEdits) : List Char → Option (FlagEdits × Char × List Char)
  | [] => none
  | '-' :: rest =>
    if !on then none
    else match rest with
      | ':' :: _ | ')' :: _ => none
      | _ => flagEdits false edits rest
  | c :: rest =>
    if c = ':' ∨ c = ')' then some (edits.reverse, c, rest)
    else match flag? c with
      | some flag =>
        if edits.any fun (known, _) => known == flag then none
        else flagEdits on ((flag, on) :: edits) rest
      | none => none

/-- The setting of a flag after the edits. -/
def FlagEdits.setting (edits : FlagEdits) (flag : Flag) (before : Bool) : Bool :=
  edits.foldl (fun now (edited, on) => if edited = flag then on else now) before

/-- Names know the letters and numbers of one version more than properties do. -/
def isNameStart (c : Char) : Bool :=
  c == '_' || CharSet.alphabetic.has c || Age.laterLetters.has c

def isNamePart (c : Char) : Bool :=
  isNameStart c || CharSet.number.has c || Age.laterNumbers.has c || c == '.' || c == '[' ||
    c == ']'

/-- The name of a group up to the closing angle bracket. -/
def groupName (cs : List Char) : Option (List Char × List Char) :=
  match cs.takeWhile (· != '>'), cs.dropWhile (· != '>') with
  | first :: others, '>' :: rest =>
    if isNameStart first && others.all isNamePart then some (first :: others, rest) else none
  | _, _ => none

/-- What an opening parenthesis opens. -/
inductive Opening where
  | capture (name : Option (List Char))
  | plain (edits : FlagEdits)
  | flags (edits : FlagEdits)

/-- The opening of a group, after the parenthesis. Conditions on what stands ahead or behind are
not supported. -/
def opening (cs : List Char) : Option (Opening × List Char) :=
  let named (cs : List Char) : Option (Opening × List Char) :=
    (groupName cs).map fun (name, rest) => (.capture (some name), rest)
  match cs with
  | '?' :: '=' :: _ | '?' :: '!' :: _ | '?' :: '<' :: '=' :: _ | '?' :: '<' :: '!' :: _ => none
  | '?' :: 'P' :: '<' :: rest => named rest
  | '?' :: '<' :: rest => named rest
  | '?' :: rest =>
    match flagEdits true [] rest with
    | some ([], ')', _) => none
    | some (edits, ')', rest) => some (.flags edits, rest)
    | some (edits, _, rest) => some (.plain edits, rest)
    | none => none
  | rest => some (.capture none, rest)

/-! ## Patterns -/

/-- The branches and parts read so far, the last ones first, as one pattern. -/
def close (branches parts : List Syntax) : Syntax :=
  .ofBranches ((Syntax.ofParts parts.reverse :: branches).reverse)

/-- Reads on until the end of the text or the parenthesis that closes the group; `names` are the
group names taken. -/
def sequence : Nat → Bool → List (List Char) → List Syntax → List Syntax → List Char →
    Option (Syntax × List (List Char) × List Char)
  | 0, _, _, _, _, _ => none
  | fuel + 1, verbose, names, branches, parts, cs =>
    let group (around : Syntax → Syntax) (verbose' : Bool) (names : List (List Char))
        (rest : List Char) :=
      match sequence fuel verbose' names [] [] rest with
      | some (body, names, ')' :: rest) =>
        sequence fuel verbose names branches (around body :: parts) rest
      | _ => none
    let repeated (least : Nat) (most : Option Nat) (rest : List Char) := do
      let (marked, rest) := passMark rest
      sequence fuel verbose names branches (← repeatLast least most marked parts) rest
    let part (read : Option (Syntax × List Char)) := do
      let (item, rest) ← read
      sequence fuel verbose names branches (item :: parts) rest
    match pass verbose cs with
    | [] => some (close branches parts, names, [])
    | ')' :: rest => some (close branches parts, names, ')' :: rest)
    | '|' :: rest => sequence fuel verbose names (.ofParts parts.reverse :: branches) [] rest
    | '(' :: rest =>
      match opening (pass verbose rest) with
      | none => none
      | some (.flags edits, rest) =>
        sequence fuel (edits.setting .verbose verbose) names branches (.flags edits :: parts) rest
      | some (.plain edits, rest) =>
        group (.group edits) (edits.setting .verbose verbose) names rest
      | some (.capture none, rest) => group .capture verbose names rest
      | some (.capture (some name), rest) =>
        if names.contains name then none else group .capture verbose (name :: names) rest
    | '*' :: rest => repeated 0 none rest
    | '+' :: rest => repeated 1 none rest
    | '?' :: rest => repeated 0 (some 1) rest
    | '{' :: rest =>
      match bounds verbose rest with
      | some (least, most, rest) => repeated least most (pass verbose rest)
      | none => none
    | '[' :: rest => part (bracketed verbose (fuel + 1) rest)
    | '\\' :: rest => part (escape verbose rest)
    | '.' :: rest => part (some (.dot, rest))
    | '^' :: rest => part (some (.anchor .lineStart, rest))
    | '$' :: rest => part (some (.anchor .lineEnd, rest))
    | c :: rest => part (some (.literal ⟨c, false⟩, rest))

/-- The deepest nesting that a pattern may have. -/
def maxDepth : Nat := 250

/-- The syntax of a whole text. -/
def parse? (cs : List Char) : Option Syntax :=
  match sequence (cs.length + 1) false [] [] [] cs with
  | some (pattern, _, []) => if pattern.depth ≤ maxDepth then some pattern else none
  | _ => none

end EncodingPlan.Pattern
