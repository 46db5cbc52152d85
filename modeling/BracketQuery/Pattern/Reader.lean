import BracketQuery.Pattern.Flags
import BracketQuery.Pattern.Choice
import BracketQuery.Pattern.Weight
import BracketQuery.Text.Numeral

/-!
Reading patterns from text. A text that is no pattern has no value; which fault it has makes no
difference to anyone.
-/

namespace BracketQuery

namespace PatternReader

structure State where
  rest : List Char
  names : List String

abbrev Reader := StateT State Option

def peek : Reader (Option Char) := return (← get).rest.head?

def peekNext : Reader (Option Char) := return ((← get).rest.drop 1).head?

def skip (n : Nat) : Reader Unit := modify fun s => { s with rest := s.rest.drop n }

def startsWith (word : String) : Reader Bool := return word.toList.isPrefixOf (← get).rest

def next : Reader Char := do
  match (← get).rest with
  | [] => failure
  | c :: r => modify fun s => { s with rest := r }; return c

def expect (c : Char) : Reader Unit := do guard ((← next) == c)

/-- What is left after blanks and comments; `inComment` tells that a comment has begun. -/
def dropVerbose (inComment : Bool) : List Char → List Char
  | [] => []
  | c :: s =>
    if inComment then dropVerbose (c != '\n') s
    else if Text.isBlank c then dropVerbose false s
    else if c = '#' then dropVerbose true s
    else c :: s

def space (f : PatternFlags) : Reader Unit := do
  if f.verbose then modify fun s => { s with rest := dropVerbose false s.rest }

def nextSpaced (f : PatternFlags) : Reader Char := do
  let c ← next
  space f
  return c

/--
The character after the next one. In a verbose pattern, blanks between them are passed over, and the
sign that begins a comment with the blanks after it, but not the words of the comment.
-/
def peekSpaced (f : PatternFlags) : Reader (Option Char) := do
  let r := (← get).rest.drop 1
  if !f.verbose then return r.head?
  match Text.trimStart r with
  | '#' :: r => return (Text.trimStart r).head?
  | r => return r.head?

inductive Escape
  | char (c : Char) (byte : Bool)
  | set (s : CharSet)
  | look (b : Boundary)

def isMeta (c : Char) : Bool := "\\.+*?()|[]\x7b\x7d^$#&-~".toList.contains c

def isEscapeable (c : Char) : Bool :=
  isMeta c || (c.toNat < 0x80 && !c.isAlphanum && c != '<' && c != '>')

def scalar (n : Nat) : Reader Char :=
  if n < 0xD800 || (0xE000 ≤ n && n ≤ 0x10FFFF) then return Char.ofNat n else failure

def hexDigit (c : Char) : Reader Nat := (Text.hexValue? c : Option Nat)

def hexDigits (f : PatternFlags) : Nat → Nat → Reader Nat
  | 0, value => return value
  | n + 1, value => do
    let d ← hexDigit (← nextSpaced f)
    hexDigits f n (16 * value + d)

/-- Hex digits up to a closing brace; the text must be shorter than `fuel`. -/
def bracedHex (f : PatternFlags) : Nat → Nat → Nat → Reader Nat
  | 0, _, _ => failure
  | fuel + 1, count, value => do
    let c ← nextSpaced f
    if c = '\x7d' then if count = 0 then failure else return value
    else
      let d ← hexDigit c
      bracedHex f fuel (count + 1) (min (16 * value + d) (Text.word32Top + 1))

def hex (f : PatternFlags) (width : Nat) : Reader Escape := do
  space f
  if (← peek) == some '\x7b' then
    let _ ← nextSpaced f
    let n ← bracedHex f ((← get).rest.length + 1) 0 0
    return .char (← scalar n) false
  else
    let n ← hexDigits f width 0
    return .char (← scalar n) (width == 2)

def splitAtFirst (c : Char) (s : List Char) : List Char × List Char :=
  (s.takeWhile (· != c), (s.dropWhile (· != c)).drop 1)

def splitAtNotEqual : List Char → Option (List Char × List Char)
  | [] => none
  | '!' :: '=' :: s => some ([], s)
  | c :: s => (splitAtNotEqual s).map fun p => (c :: p.1, p.2)

def bracedName (f : PatternFlags) : Nat → List Char → Reader (List Char)
  | 0, _ => failure
  | fuel + 1, acc => do
    let c ← nextSpaced f
    if c = '\x7d' then return acc.reverse else bracedName f fuel (c :: acc)

def property (f : PatternFlags) (negated : Bool) : Reader Escape := do
  guard f.unicode
  space f
  let (negated, set) ←
    if (← peek) == some '\x7b' then
      skip 1
      space f
      let name ← bracedName f ((← get).rest.length + 1) []
      match splitAtNotEqual name with
      | some (n, v) => pure (!negated, Text.Property.valued? n v)
      | none =>
        if name.contains ':' then
          let (n, v) := splitAtFirst ':' name
          pure (negated, Text.Property.valued? n v)
        else if name.contains '=' then
          let (n, v) := splitAtFirst '=' name
          pure (negated, Text.Property.valued? n v)
        else pure (negated, Text.Property.named? name)
    else
      let c ← next
      guard (c != '\\')
      pure (negated, Text.Property.named? [c])
  let set ← (set : Option CharSet)
  let set := f.fold set
  return .set (if negated then set.complement else set)

def wordBoundary (f : PatternFlags) : Reader Escape := do
  if (← peek) == some '\x7b' then
    let back ← get
    let _ ← nextSpaced f
    match ← peek with
    | none => failure
    | some c =>
      if !(c.isAlpha || c == '-') then
        set back
        return .look (.wordEdge f.unicode)
      else
        let name ← bracedName f ((← get).rest.length + 1) []
        match String.ofList name with
        | "start" => return .look (.wordStart f.unicode)
        | "end" => return .look (.wordEnd f.unicode)
        | "start-half" => return .look (.wordStartHalf f.unicode)
        | "end-half" => return .look (.wordEndHalf f.unicode)
        | _ => failure
  else return .look (.wordEdge f.unicode)

def escape (f : PatternFlags) : Reader Escape := do
  let c ← next
  if c = 'x' then hex f 2
  else if c = 'u' then hex f 4
  else if c = 'U' then hex f 8
  else if c = 'p' then property f false
  else if c = 'P' then property f true
  else if let some s := f.shorthand? c then return .set s
  else if isEscapeable c then return .char c false
  else match c with
    | 'a' => return .char '\x07' false
    | 'f' => return .char '\x0c' false
    | 't' => return .char '\t' false
    | 'n' => return .char '\n' false
    | 'r' => return .char '\r' false
    | 'v' => return .char '\x0b' false
    | 'A' => return .look .textStart
    | 'z' => return .look .textEnd
    | 'b' => wordBoundary f
    | 'B' => return .look (.noWordEdge f.unicode)
    | '<' => return .look (.wordStart f.unicode)
    | '>' => return .look (.wordEnd f.unicode)
    | _ => failure

/-- The members of a class so far, how many items gave them, and how deep these are nested. -/
structure ClassPart where
  set : CharSet
  count : Nat
  height : Nat

namespace ClassPart

def none : ClassPart := ⟨.empty, 0, 0⟩

def add (u : ClassPart) (s : CharSet) (height : Nat) : ClassPart :=
  ⟨u.set.union s, u.count + 1, max u.height height⟩

/-- The items as one; two or more of them nest one level deeper. -/
def close (u : ClassPart) : ClassPart := if u.count < 2 then u else ⟨u.set, 1, u.height + 1⟩

end ClassPart

inductive SetOp
  | inter
  | diff
  | symmDiff

def SetOp.apply : SetOp → CharSet → CharSet → CharSet
  | inter, s, t => s.inter t
  | diff, s, t => s.diff t
  | symmDiff, s, t => s.symmDiff t

def applyPending (f : PatternFlags) (pending : Option (SetOp × ClassPart)) (u : ClassPart) :
    ClassPart :=
  let u := u.close
  match pending with
  | none => u
  | some (op, l) => ⟨op.apply (f.fold l.set) (f.fold u.set), 1, max l.height u.height + 1⟩

def classItem (f : PatternFlags) : Reader Escape := do
  if (← peek) == some '\\' then
    skip 1
    let e ← escape f
    space f
    return e
  else return .char (← nextSpaced f) false

/-- Without `u`, a character of a class is one of ASCII. -/
def classChar (f : PatternFlags) : Escape → Reader Char
  | .char c _ => do
    guard (f.unicode || c.toNat ≤ 0x7F)
    return c
  | _ => failure

def classRange (f : PatternFlags) : Reader CharSet := do
  let e ← classItem f
  let c ← peek
  if c.isNone then failure
  let after ← peekSpaced f
  if c != some '-' || after == some ']' || after == some '-' then
    match e with
    | .set s => return s
    | e => return .single (← classChar f e)
  else
    let _ ← nextSpaced f
    let lo ← classChar f e
    let hi ← classChar f (← classItem f)
    guard (lo ≤ hi)
    return .range lo.toNat hi.toNat

def asciiClass (f : PatternFlags) : Reader (Option CharSet) := do
  if !(← startsWith "[:") then return none
  let r := (← get).rest.drop 2
  let negated := r.head? == some '^'
  let r := if negated then r.drop 1 else r
  let name := r.takeWhile (· != ':')
  let after := r.dropWhile (· != ':')
  if after.take 2 != [':', ']'] then return none
  match PatternFlags.asciiClass? (String.ofList name) with
  | none => return none
  | some s =>
    modify fun st => { st with rest := after.drop 2 }
    let s := f.fold s
    if negated then return some (← (f.complement? s : Option CharSet)) else return some s

/-- Hyphens at the start of a class are literal. -/
def leadingHyphens (f : PatternFlags) : Nat → ClassPart → Reader ClassPart
  | 0, u => return u
  | fuel + 1, u => do
    if (← peek) == some '-' then
      let _ ← nextSpaced f
      leadingHyphens f fuel (u.add (.single '-') 0)
    else return u

mutual

def bracket (f : PatternFlags) : Nat → Reader ClassPart
  | 0 => failure
  | fuel + 1 => do
    expect '['
    space f
    let negated := (← peek) == some '^'
    if negated then let _ ← nextSpaced f
    let u ← leadingHyphens f ((← get).rest.length + 1) .none
    let u ←
      if u.count == 0 && (← peek) == some ']' then
        let _ ← nextSpaced f
        pure (u.add (.single ']') 0)
      else pure u
    let part ← classBody f fuel u none
    let s := f.fold part.set
    let s ← if negated then (f.complement? s : Option CharSet) else pure s
    return ⟨s, 1, part.height + 1⟩

def classBody (f : PatternFlags) : Nat → ClassPart → Option (SetOp × ClassPart) → Reader ClassPart
  | 0, _, _ => failure
  | fuel + 1, u, pending => do
    space f
    let c ← peek
    let d ← peekNext
    if c == some '[' then
      match ← asciiClass f with
      | some s => classBody f fuel (u.add s 0) pending
      | none =>
        let inner ← bracket f fuel
        classBody f fuel (u.add inner.set inner.height) pending
    else if c == some ']' then
      skip 1
      return applyPending f pending u
    else if c == some '&' && d == some '&' then
      skip 2
      classBody f fuel .none (some (.inter, applyPending f pending u))
    else if c == some '-' && d == some '-' then
      skip 2
      classBody f fuel .none (some (.diff, applyPending f pending u))
    else if c == some '~' && d == some '~' then
      skip 2
      classBody f fuel .none (some (.symmDiff, applyPending f pending u))
    else
      let s ← classRange f
      classBody f fuel (u.add s 0) pending

end

/-- A part of a pattern and how deep it is nested; a setting of flags cannot be repeated. -/
structure Item where
  pattern : Pattern
  height : Nat
  isSetting : Bool

def Item.concat (items : List Item) : Item :=
  match items with
  | [x] => x
  | _ =>
    let h := (items.map Item.height).foldl max 0
    ⟨.join (items.reverse.map Item.pattern), if items.isEmpty then 0 else h + 1, false⟩

def Item.choose (items : List Item) : Item :=
  match items with
  | [x] => x
  | _ =>
    ⟨.choose (items.reverse.map Item.pattern), (items.map Item.height).foldl max 0 + 1, false⟩

/-- A repetition; what can only match the empty text is not repeated. -/
def repeatPattern (p : Pattern) (least : Nat) (most : Option Nat) (isLazy : Bool) : Pattern :=
  let (least, most) :=
    if p.isZeroWidth then (min least 1, some (min (most.getD 1) 1)) else (least, most)
  if least = 0 && most == some 0 then .empty
  else if least = 1 && most == some 1 then p
  else .repetition p least most isLazy

def signBounds (c : Char) : Option (Nat × Option Nat) :=
  match c with
  | '?' => some (0, some 1)
  | '*' => some (0, none)
  | '+' => some (1, none)
  | _ => none

def isCountDigit (c : Char) : Bool := c.isDigit

def countDigits (f : PatternFlags) : Nat → List Char → Reader (List Char)
  | 0, acc => return acc.reverse
  | fuel + 1, acc => do
    match ← peek with
    | some c => if isCountDigit c then countDigits f fuel ((← nextSpaced f) :: acc) else return acc.reverse
    | none => return acc.reverse

def skipBlanks : Reader Unit := modify fun s => { s with rest := Text.trimStart s.rest }

def count (f : PatternFlags) : Reader (Option Nat) := do
  skipBlanks
  let ds ← countDigits f ((← get).rest.length + 1) []
  skipBlanks
  if ds.isEmpty then return none
  let n := Text.digitsValue ds
  guard (n ≤ Text.word32Top)
  return some n

def countedBounds (f : PatternFlags) : Reader (Nat × Option Nat) := do
  let _ ← nextSpaced f
  guard (← peek).isSome
  let least ← count f
  let bounds ←
    if (← peek) == some ',' then
      let _ ← nextSpaced f
      let least ← (least : Option Nat)
      if (← peek) == some '\x7d' then pure (least, none)
      else
        guard (← peek).isSome
        let most ← (← count f : Option Nat)
        pure (least, some most)
    else
      let n ← (least : Option Nat)
      pure (n, some n)
  guard ((← peek) == some '\x7d')
  match bounds with
  | (least, some most) => guard (least ≤ most)
  | _ => pure ()
  return bounds

def lazyMark : Reader Bool := do
  if (← peek) == some '?' then
    skip 1
    return true
  else return false

def repeatLast (f : PatternFlags) (bounds : Nat × Option Nat) (isLazy : Bool) :
    List Item → Reader (List Item)
  | [] => failure
  | x :: xs => do
    guard !x.isSetting
    return ⟨repeatPattern x.pattern bounds.1 bounds.2 (isLazy != f.swapGreed), x.height + 1, false⟩ :: xs

def flagLetters : Nat → Bool → Bool → List Char → PatternFlags → Reader (PatternFlags × Nat × Char)
  | 0, _, _, _, _ => failure
  | fuel + 1, negated, dangling, seen, f => do
    let c ← next
    if c = ':' || c = ')' then
      guard !dangling
      return (f, seen.length, c)
    else if c = '-' then
      guard !negated
      flagLetters fuel true true ('-' :: seen) f
    else
      guard !seen.contains c
      let f ← (f.set? (!negated) c : Option PatternFlags)
      flagLetters fuel negated false (c :: seen) f

def isNameStart (c : Char) : Bool := c == '_' || c.isAlpha || Text.letters.contains c

def isNameChar (c : Char) : Bool :=
  isNameStart c || c == '.' || c == '[' || c == ']' || Text.numerals.contains c

def captureName : Reader String := do
  let r := (← get).rest
  let name := r.takeWhile (· != '>')
  match name with
  | [] => failure
  | c :: cs =>
    guard (isNameStart c && cs.all isNameChar && name.length < r.length)
    let n := String.ofList name
    guard !(← get).names.contains n
    modify fun s => ⟨s.rest.drop (name.length + 1), n :: s.names⟩
    return n

inductive Opening
  | setting (f : PatternFlags)
  | plain (f : PatternFlags)
  | capture (name : Option String)

def opening (f : PatternFlags) : Reader Opening := do
  expect '('
  space f
  for word in ["?=", "?!", "?<=", "?<!"] do
    if ← startsWith word then failure
  if ← startsWith "?P<" then
    skip 3
    return .capture (some (← captureName))
  else if ← startsWith "?<" then
    skip 2
    return .capture (some (← captureName))
  else if ← startsWith "?" then
    skip 1
    let (g, count, last) ← flagLetters ((← get).rest.length + 1) false false [] f
    if last = ')' then
      guard (count ≠ 0)
      return .setting g
    else return .plain g
  else return .capture none

/-- Alternatives up to a closing parenthesis or the end; both lists are kept last item first. -/
def alternatives : Nat → PatternFlags → List Item → List Item → Reader Item
  | 0, _, _, _ => failure
  | fuel + 1, f, items, alts => do
    space f
    match ← peek with
    | none | some ')' => return Item.choose (Item.concat items :: alts)
    | some c =>
      if c = '(' then
        match ← opening f with
        | .setting g => alternatives fuel g (⟨.empty, 0, true⟩ :: items) alts
        | .plain g =>
          let inner ← alternatives fuel g [] []
          expect ')'
          alternatives fuel f (⟨inner.pattern, inner.height + 1, false⟩ :: items) alts
        | .capture name =>
          let inner ← alternatives fuel f [] []
          expect ')'
          alternatives fuel f (⟨.capture name inner.pattern, inner.height + 1, false⟩ :: items) alts
      else if c = '|' then
        skip 1
        alternatives fuel f [] (Item.concat items :: alts)
      else if c = '[' then
        let part ← bracket f ((← get).rest.length + 1)
        alternatives fuel f (⟨.chars part.set, part.height, false⟩ :: items) alts
      else if let some bounds := signBounds c then
        skip 1
        let isLazy ← lazyMark
        let items ← repeatLast f bounds isLazy items
        alternatives fuel f items alts
      else if c = '\x7b' then
        guard !items.isEmpty
        let bounds ← countedBounds f
        let _ ← nextSpaced f
        let isLazy ← lazyMark
        let items ← repeatLast f bounds isLazy items
        alternatives fuel f items alts
      else
        skip 1
        let p ←
          if c = '\\' then do
            match ← escape f with
            | .char d byte => (f.literal? byte d : Option Pattern)
            | .set s => pure (.chars s)
            | .look b => pure (.look b)
          else if c = '.' then (f.dot? : Option Pattern)
          else if c = '^' then pure (.look f.caret)
          else if c = '$' then pure (.look f.dollar)
          else (f.literal? false c : Option Pattern)
        alternatives fuel f (⟨p, 0, false⟩ :: items) alts

def heightLimit : Nat := 250

end PatternReader

def Pattern.read? (ignoreCase : Bool) (text : String) : Option Pattern := do
  let (item, s) ← (PatternReader.alternatives (2 * text.length + 2) (.standard ignoreCase) [] []).run
    ⟨text.toList, []⟩
  guard (s.rest.isEmpty && item.height ≤ PatternReader.heightLimit && item.pattern.fits)
  return item.pattern

end BracketQuery
