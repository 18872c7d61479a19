import Conch.Sh.Syntax
/-!
Numbers in binary floating point of double precision, as `printf` reads and writes them.

A finite number is a sign, a significand below `2 ^ 53` and a binary exponent of at least
`-1074`; its value is the significand times two to the exponent. Reading decimal or hexadecimal
text gives the finite number nearest to the exact value the text spells, the one with the even
significand on a tie. A value at least `2 ^ 1024` after rounding is infinite and out of range;
so is a value below the smallest normal number, `2 ^ -1022`, that the format cannot hold
exactly. The text may also spell an infinity or a quiet not-a-number, in any case of letters.

Writing works on the exact value as well: the fixed form with `p` decimals is the exact value
rounded to a multiple of `10 ^ -p`, the exponent form rounds to `p + 1` significant digits and
the hexadecimal form to `p` hexadecimal digits after the point, each half to even. So `0.125`
with two decimals is `0.12` and `2.5` with none is `2`. The general form takes the exponent
form's exponent `x` after rounding to `P` significant digits and writes the fixed form with
`P - 1 - x` decimals when `-4 ≤ x < P`, the exponent form otherwise, and drops the zeros that end
the fraction.
-/

namespace Conch.Sh

/-- A number of binary floating point in double precision. -/
inductive Double
  /-- The number `(-1) ^ neg * mant * 2 ^ exp`. -/
  | finite (neg : Bool) (mant : Nat) (exp : Int)
  | inf (neg : Bool)
  | nan (neg : Bool)
  deriving Repr, DecidableEq

namespace Double

/-- Zero. -/
def zero : Double := .finite false 0 0

/-- A natural number below `2 ^ 53`, exactly. -/
def ofSmall (n : Nat) : Double := .finite false n 0

/-- `num / den` rounded to the nearest natural number, to the even one on a tie. -/
def roundHalfEven (num den : Nat) : Nat :=
  let q := num / den
  let r := num % den
  if 2 * r > den || (2 * r == den && q % 2 == 1) then q + 1 else q

/-- The fraction `a / b` times `base ^ k`, as a numerator and a denominator. -/
def scaled (a b base : Nat) (k : Int) : Nat × Nat :=
  if 0 ≤ k then (a * Nat.pow base k.toNat, b) else (a, b * Nat.pow base (-k).toNat)

/-- The greatest `g` with `base ^ g ≤ a / b`, given a guess that is it or one more. -/
def floorLog (base a b : Nat) (guess : Int) : Int :=
  let (n, d) := scaled b 1 base guess
  if n ≤ a * d then guess else guess - 1

/-- The number of decimal digits of a natural number. -/
def decimalLength (n : Nat) : Nat := (Nat.toDigits 10 n).length

/-- The finite number nearest to `a / b`, with its sign, and whether the value is out of range:
too large, or below the smallest normal number and not held exactly. -/
def ofFraction (neg : Bool) (a b : Nat) : Double × Bool :=
  if a == 0 || b == 0 then (.finite neg 0 0, false)
  else
    let g := floorLog 2 a b ((Nat.log2 a : Int) - Nat.log2 b)
    let e := max (g - 52) (-1074)
    let (n, d) := scaled a b 2 (-e)
    let m := roundHalfEven n d
    let (m, e) := if m == Nat.pow 2 53 then (Nat.pow 2 52, e + 1) else (m, e)
    if 1023 < e + 52 then (.inf neg, true)
    else (.finite neg m e, g < -1022 && n % d != 0)

/-! ## Reading -/

/-- Whether a character is a blank that may come before a number. -/
def isSpace (c : Char) : Bool := c == ' ' || ('\t' ≤ c && c ≤ '\r')

/-- The value of a hexadecimal digit. -/
def hexValue? (c : Char) : Option Nat :=
  if '0' ≤ c && c ≤ '9' then some (c.toNat - 48)
  else if 'a' ≤ c.toLower && c.toLower ≤ 'f' then some (c.toLower.toNat - 87)
  else none

/-- Whether `cs` starts with the letters of `word`, in any case. -/
def startsWithWord (cs : List Char) (word : String) : Bool :=
  (cs.take word.length).map Char.toLower == word.toList

/-- The digits at the start of a text and the text after them. -/
def spanDigits (isDigit : Char → Bool) (cs : List Char) : List Char × List Char :=
  let ds := cs.takeWhile isDigit
  (ds, cs.drop ds.length)

/-- Reads an exponent: a letter among `letters`, a sign and decimal digits. Returns the exponent
and the text after it, or zero and the same text when no exponent is written there. -/
def readExponent (letters : List Char) (cs : List Char) : Int × List Char :=
  match cs with
  | c :: rest =>
    if letters.contains c then
      let (neg, rest) := match rest with
        | '-' :: r => (true, r)
        | '+' :: r => (false, r)
        | _ => (false, rest)
      let (ds, after) := spanDigits Char.isDigit rest
      if ds.isEmpty then (0, cs)
      else
        let v : Nat := ds.foldl (fun a d => a * 10 + (d.toNat - 48)) 0
        (if neg then -(v : Int) else v, after)
    else (0, cs)
  | [] => (0, cs)

/-- The number `n * base ^ k`: exact rounding when the value is in reach of the format, and
infinity or zero at once when its digits put it far outside, where `size` is the number of
digits of `n` in `base`. -/
def ofScaled (neg : Bool) (n base size : Nat) (k : Int) (far : Int) : Double × Bool :=
  if n == 0 then (.finite neg 0 0, false)
  else if far < k + size then (.inf neg, true)
  else if k + size < -far then (.finite neg 0 0, true)
  else
    let (a, b) := scaled n 1 base k
    ofFraction neg a b

/-- Reads the digits of a number after its sign, in decimal, or in hexadecimal after `0x`.
Returns the number, whether it is out of range, and the text after it. -/
def readDigits (neg : Bool) (cs : List Char) : Option (Double × Bool × List Char) :=
  let isHex (c : Char) : Bool := (hexValue? c).isSome
  let hex : Option (Double × Bool × List Char) := match cs with
    | '0' :: x :: rest =>
      if x != 'x' && x != 'X' then none
      else
        let (whole, rest) := spanDigits isHex rest
        let (frac, rest) := match rest with
          | '.' :: r => spanDigits isHex r
          | _ => ([], rest)
        if whole.isEmpty && frac.isEmpty then none
        else
          let (x, rest) := readExponent ['p', 'P'] rest
          let n := (whole ++ frac).foldl (fun a d => a * 16 + (hexValue? d).getD 0) 0
          let (v, range) := ofScaled neg n 2 (Nat.log2 n + 1) (x - 4 * frac.length) 1100
          some (v, range, rest)
    | _ => none
  match hex with
  | some r => some r
  | none =>
    let (whole, rest) := spanDigits Char.isDigit cs
    let (frac, rest) := match rest with
      | '.' :: r => spanDigits Char.isDigit r
      | _ => ([], rest)
    if whole.isEmpty && frac.isEmpty then none
    else
      let (x, rest) := readExponent ['e', 'E'] rest
      let n := (whole ++ frac).foldl (fun a d => a * 10 + (d.toNat - 48)) 0
      let (v, range) := ofScaled neg n 10 (decimalLength n) (x - frac.length) 330
      some (v, range, rest)

/-- Reads the longest start of a text that spells a number, after blanks: a sign, then digits
or an infinity or a not-a-number. Returns the number, whether it is out of range, and the text
after it; nothing when no start of the text spells a number. -/
def readPrefix (cs : List Char) : Option (Double × Bool × List Char) :=
  let body := cs.dropWhile isSpace
  let (neg, body) := match body with
    | '-' :: r => (true, r)
    | '+' :: r => (false, r)
    | _ => (false, body)
  if startsWithWord body "infinity" then some (.inf neg, false, body.drop 8)
  else if startsWithWord body "inf" then some (.inf neg, false, body.drop 3)
  else if startsWithWord body "nan" then
    let rest := body.drop 3
    let rest := match rest with
      | '(' :: r =>
        let (_, after) := spanDigits (fun c => c.isAlphanum || c == '_') r
        match after with
        | ')' :: more => more
        | _ => rest
      | _ => rest
    some (.nan neg, false, rest)
  else readDigits neg body

/-! ## Writing -/

/-- Drops the zeros that end the fraction of a number's digits, and the point when nothing
follows it. -/
def stripFraction (ds : List Char) : List Char :=
  if ds.contains '.' then
    let r := ds.reverse.dropWhile (· == '0')
    (if r.head? == some '.' then r.tail else r).reverse
  else ds

/-- The fixed form of `a / b` with `p` decimals; `alt` keeps the point when there are none. -/
def fixedForm (a b p : Nat) (alt : Bool) : List Char :=
  let ds := Nat.toDigits 10 (roundHalfEven (a * Nat.pow 10 p) b)
  let ds := List.replicate (p + 1 - ds.length) '0' ++ ds
  let whole := ds.take (ds.length - p)
  if p == 0 then whole ++ (if alt then ['.'] else [])
  else whole ++ ['.'] ++ ds.drop (ds.length - p)

/-- The `p + 1` significant digits of `a / b`, as a natural number, and its decimal exponent,
after rounding; zero has exponent zero. -/
def scientific (a b p : Nat) : Nat × Int :=
  if a == 0 then (0, 0)
  else
    let x := floorLog 10 a b ((decimalLength a : Int) - decimalLength b)
    let (n, d) := scaled a b 10 ((p : Int) - x)
    let r := roundHalfEven n d
    if r == Nat.pow 10 (p + 1) then (Nat.pow 10 p, x + 1) else (r, x)

/-- The exponent form of the significant digits `digits`, `p` of them after the point, with
the decimal exponent `x`. -/
def exponentForm (digits : Nat) (x : Int) (p : Nat) (alt upper : Bool) : List Char :=
  let ds := Nat.toDigits 10 digits
  let ds := List.replicate (p + 1 - ds.length) '0' ++ ds
  let mant := ds.take 1 ++ (if p == 0 && !alt then [] else ['.']) ++ ds.drop 1
  let xs := Nat.toDigits 10 x.natAbs
  let xs := if xs.length < 2 then '0' :: xs else xs
  mant ++ [if upper then 'E' else 'e', if x < 0 then '-' else '+'] ++ xs

/-- The general form of `a / b` with `P` significant digits. -/
def generalForm (a b P : Nat) (alt upper : Bool) : List Char :=
  let P := if P == 0 then 1 else P
  let (digits, x) := scientific a b (P - 1)
  if x < -4 || (P : Int) ≤ x then
    let body := exponentForm digits x (P - 1) alt upper
    if alt then body
    else
      let mant := body.takeWhile fun c => c != 'e' && c != 'E'
      stripFraction mant ++ body.drop mant.length
  else
    let body := fixedForm a b (P - 1 - x).toNat alt
    if alt then body else stripFraction body

/-- The hexadecimal digits of `n`, `count` of them. -/
def hexDigits (count n : Nat) : List Char :=
  let ds := Nat.toDigits 16 n
  List.replicate (count - ds.length) '0' ++ ds

/-- The hexadecimal form of the finite magnitude `m * 2 ^ e`, after `0x`: a leading digit, the
fraction with `prec` digits or as many as it needs, and the binary exponent. A number below the
smallest normal one leads with `0` and has the exponent `-1022`. -/
def hexForm (m : Nat) (e : Int) (prec : Option Nat) (alt : Bool) : List Char :=
  let (lead, frac, x) : Nat × Nat × Int :=
    if m == 0 then (0, 0, 0)
    else if m < Nat.pow 2 52 then (0, m, -1022)
    else (1, m - Nat.pow 2 52, e + 52)
  let (lead, digits) := match prec with
    | none => (lead, ((hexDigits 13 frac).reverse.dropWhile (· == '0')).reverse)
    | some p =>
      if 13 ≤ p then (lead, hexDigits 13 frac ++ List.replicate (p - 13) '0')
      else
        let r := roundHalfEven (lead * Nat.pow 2 52 + frac) (Nat.pow 2 (4 * (13 - p)))
        (r / Nat.pow 16 p, if p == 0 then [] else hexDigits p (r % Nat.pow 16 p))
  let xs := Nat.toDigits 10 x.natAbs
  Nat.toDigits 16 lead ++ (if digits.isEmpty && !alt then [] else ['.']) ++ digits ++
    ['p', if x < 0 then '-' else '+'] ++ xs

/-- Writes a number under a conversion letter among `e E f F g G a A`, with its flags, width
and precision. -/
def format (v : Double) (conv : Char) (flags : List Char) (width : Option Nat)
    (precision : Option Nat) : List Char :=
  let upper := conv.isUpper
  let lower := conv.toLower
  let alt := flags.contains '#'
  let neg := match v with
    | .finite n _ _ => n
    | .inf n => n
    | .nan n => n
  let sign : List Char := if neg then ['-'] else if flags.contains '+' then ['+']
    else if flags.contains ' ' then [' '] else []
  let (lead, body, plain) : List Char × List Char × Bool := match v with
    | .inf _ => ([], ['i', 'n', 'f'], false)
    | .nan _ => ([], ['n', 'a', 'n'], false)
    | .finite _ m e =>
      let (a, b) := scaled m 1 2 e
      if lower == 'a' then (['0', 'x'], hexForm m e precision alt, true)
      else if lower == 'e' then
        let p := precision.getD 6
        let (digits, x) := scientific a b p
        ([], exponentForm digits x p alt false, true)
      else if lower == 'g' then ([], generalForm a b (precision.getD 6) alt false, true)
      else ([], fixedForm a b (precision.getD 6) alt, true)
  let head := sign ++ lead
  let body := if upper then body.map Char.toUpper else body
  let head := if upper then head.map Char.toUpper else head
  let w := width.getD 0
  let len := head.length + body.length
  if flags.contains '-' then head ++ body ++ List.replicate (w - len) ' '
  else if flags.contains '0' && plain then head ++ List.replicate (w - len) '0' ++ body
  else List.replicate (w - len) ' ' ++ head ++ body

end Double

end Conch.Sh
