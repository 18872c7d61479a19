import Conch.Sh.State
/-!
Patterns, as `case`, the removals of `${name%word}` and pathname expansion use them.

A pattern is made from expanded text in which every byte is marked quoted or not. Unquoted `*`
matches any run of bytes, unquoted `?` any one byte, and an unquoted `[` that has a closing `]`
starts a bracket expression: a set of bytes, ranges `a-z` and classes `[:alpha:]`, negated when
it starts with `!`; a `]` right after the `[` or the `!` belongs to the set. An unquoted
backslash quotes the byte after it. Everything else, and every quoted byte, matches itself.
Matching is on bytes.
-/

namespace Conch.Sh

/-- A member of a bracket expression. -/
inductive ClassItem
  | one (b : UInt8)
  | range (lo hi : UInt8)
  | named (name : String)
  deriving DecidableEq, Repr

/-- A piece of a pattern. -/
inductive PatItem
  | lit (b : UInt8)
  | any
  | star
  | bracket (negated : Bool) (items : List ClassItem)
  deriving DecidableEq, Repr

/-- A pattern. -/
abbrev Pattern := List PatItem

namespace Pattern

/-- Whether a byte is in a named class. -/
def inNamed (name : String) (b : UInt8) : Bool :=
  let c := b.toNat
  let upper := 65 ≤ c && c ≤ 90
  let lower := 97 ≤ c && c ≤ 122
  let digit := 48 ≤ c && c ≤ 57
  let alpha := upper || lower
  let space := c == 32 || (9 ≤ c && c ≤ 13)
  let print := 32 ≤ c && c ≤ 126
  match name with
  | "alpha" => alpha
  | "upper" => upper
  | "lower" => lower
  | "digit" => digit
  | "alnum" => alpha || digit
  | "space" => space
  | "blank" => c == 32 || c == 9
  | "print" => print
  | "graph" => print && c != 32
  | "punct" => print && c != 32 && !alpha && !digit
  | "cntrl" => c < 32 || c == 127
  | "xdigit" => digit || (65 ≤ c && c ≤ 70) || (97 ≤ c && c ≤ 102)
  | _ => false

/-- Whether a byte is in the set of a bracket expression. -/
def inClass (items : List ClassItem) (b : UInt8) : Bool :=
  items.any fun i => match i with
    | .one x => x == b
    | .range lo hi => lo ≤ b && b ≤ hi
    | .named n => inNamed n b

/-- Whether `f` holds for some suffix of a list, the list itself and the empty one included. -/
def anySuffix (f : List UInt8 → Bool) : List UInt8 → Bool
  | [] => f []
  | c :: cs => f (c :: cs) || anySuffix f cs

/-- Whether a pattern matches all of a byte string. -/
def accepts : Pattern → List UInt8 → Bool
  | [], s => s.isEmpty
  | .star :: p, s => anySuffix (accepts p) s
  | .any :: p, _ :: s => accepts p s
  | .lit b :: p, c :: s => b == c && accepts p s
  | .bracket neg items :: p, c :: s => inClass items c != neg && accepts p s
  | _ :: _, [] => false

/-- Reads the members of a bracket expression up to its closing `]`, looking at most `n` more
times; the first member may be `]`. Returns the members and the rest of the text, or nothing
when no `]` closes it. -/
def readClass : Nat → List (UInt8 × Bool) → Bool → List ClassItem →
    Option (List ClassItem × List (UInt8 × Bool))
  | 0, _, _, _ => none
  | _ + 1, [], _, _ => none
  | _ + 1, (93, false) :: rest, false, acc => some (acc.reverse, rest)
  | n + 1, (91, false) :: (58, false) :: rest, _, acc =>
    let name := rest.takeWhile fun (b, q) => !q && b != 58 && b != 93
    match rest.drop name.length with
    | (58, false) :: (93, false) :: after =>
      readClass n after false (.named (String.ofList (name.map fun (b, _) => Char.ofNat b.toNat)) :: acc)
    | _ => readClass n ((58, false) :: rest) false (.one 91 :: acc)
  | n + 1, (b, _) :: (45, false) :: (hi, hq) :: rest, _, acc =>
    if hi == 93 && !hq then readClass n ((45, false) :: (hi, hq) :: rest) false (.one b :: acc)
    else readClass n rest false (.range b hi :: acc)
  | n + 1, (b, _) :: rest, _, acc => readClass n rest false (.one b :: acc)

/-- The pattern of marked text, reading at most `n` pieces. -/
def ofMarkedUpTo : Nat → List (UInt8 × Bool) → Pattern
  | 0, _ => []
  | _ + 1, [] => []
  | n + 1, (92, false) :: (b, _) :: rest => .lit b :: ofMarkedUpTo n rest
  | n + 1, (42, false) :: rest => .star :: ofMarkedUpTo n rest
  | n + 1, (63, false) :: rest => .any :: ofMarkedUpTo n rest
  | n + 1, (91, false) :: rest =>
    let (neg, body) := match rest with
      | (33, false) :: body => (true, body)
      | _ => (false, rest)
    match readClass (body.length + 1) body true [] with
    | some (items, after) => .bracket neg items :: ofMarkedUpTo n after
    | none => .lit 91 :: ofMarkedUpTo n rest
  | n + 1, (b, _) :: rest => .lit b :: ofMarkedUpTo n rest

/-- The pattern of marked text. -/
def ofMarked (cs : List (UInt8 × Bool)) : Pattern := ofMarkedUpTo cs.length cs

/-- The pattern that matches a byte string exactly. -/
def exact (bs : List UInt8) : Pattern := bs.map .lit

/-- Whether marked text holds an unquoted `*`, `?` or `[`. -/
def hasMeta (cs : List (UInt8 × Bool)) : Bool :=
  cs.any fun (b, q) => !q && (b == 42 || b == 63 || b == 91)

end Pattern

end Conch.Sh
