/-!
UTF-8: encoding texts to bytes and decoding bytes to texts.

Decoding reads one sequence at a time. A lead byte below 0x80 is a character of its own; 0xC2
to 0xF4 announce sequences of two to four bytes whose continuation bytes must lie in ranges that
depend on the lead (this excludes overlong forms, surrogates and code points above U+10FFFF); any
other lead is an invalid start byte. The first fault found is reported with the span of bytes it
covers: the lead alone for a bad start, the lead and the good continuation bytes before a bad one,
and everything from the lead to the end when the data stops inside a sequence.
-/

namespace Conch.Text

/-- The bytes of a text in UTF-8. -/
def utf8 (s : String) : List UInt8 := s.toUTF8.toList

/-- Why decoding stopped. -/
inductive DecodeFault
  | invalidStart
  | invalidContinuation
  | unexpectedEnd
  deriving DecidableEq, Repr

/-- The words a decoding message gives for each fault. -/
def DecodeFault.reason : DecodeFault → String
  | invalidStart => "invalid start byte"
  | invalidContinuation => "invalid continuation byte"
  | unexpectedEnd => "unexpected end of data"

/-- A decoding fault with the span of bytes it covers, from `start` up to `stop`. -/
structure DecodeError where
  fault : DecodeFault
  start : Nat
  stop : Nat
  /-- The byte at `start`. -/
  lead : UInt8
  deriving DecidableEq, Repr

/-- The message of a decoding fault. -/
def DecodeError.message (e : DecodeError) : String :=
  if e.stop = e.start + 1 then
    "'utf-8' codec can't decode byte 0x" ++ hexByte e.lead ++ " in position " ++
      toString e.start ++ ": " ++ e.fault.reason
  else
    "'utf-8' codec can't decode bytes in position " ++ toString e.start ++ "-" ++
      toString (e.stop - 1) ++ ": " ++ e.fault.reason
where
  hexByte (b : UInt8) : String :=
    let ds := Nat.toDigits 16 b.toNat
    String.ofList (if ds.length < 2 then '0' :: ds else ds)

/-- The ranges the continuation bytes after a lead byte must lie in, and the bits the lead
contributes; `none` for a byte that cannot start a sequence. -/
def leadShape (b : UInt8) : Option (List (Nat × Nat) × Nat) :=
  let n := b.toNat
  if n < 0x80 then some ([], n)
  else if n < 0xC2 then none
  else if n < 0xE0 then some ([(0x80, 0xBF)], n - 0xC0)
  else if n = 0xE0 then some ([(0xA0, 0xBF), (0x80, 0xBF)], 0)
  else if n = 0xED then some ([(0x80, 0x9F), (0x80, 0xBF)], 0xD)
  else if n < 0xF0 then some ([(0x80, 0xBF), (0x80, 0xBF)], n - 0xE0)
  else if n = 0xF0 then some ([(0x90, 0xBF), (0x80, 0xBF), (0x80, 0xBF)], 0)
  else if n < 0xF4 then some ([(0x80, 0xBF), (0x80, 0xBF), (0x80, 0xBF)], n - 0xF0)
  else if n = 0xF4 then some ([(0x80, 0x8F), (0x80, 0xBF), (0x80, 0xBF)], 4)
  else none

/-- Reads the continuation bytes of a sequence: on success the code point and the bytes after
the sequence, otherwise the fault and how many bytes of the sequence were good. -/
def readContinuation (acc : Nat) (good : Nat) :
    List (Nat × Nat) → List UInt8 → Except (DecodeFault × Nat) (Nat × List UInt8)
  | [], rest => .ok (acc, rest)
  | _ :: _, [] => .error (.unexpectedEnd, good)
  | (lo, hi) :: ranges, b :: rest =>
    if lo ≤ b.toNat && b.toNat ≤ hi then
      readContinuation (acc * 64 + (b.toNat - 0x80)) (good + 1) ranges rest
    else .error (.invalidContinuation, good)

/-- Decodes bytes that start at position `pos`, adding the characters after `acc` (last
first). -/
def decodeFrom (pos : Nat) (acc : List Char) : List UInt8 → Except DecodeError String
  | [] => .ok (String.ofList acc.reverse)
  | b :: rest =>
    match leadShape b with
    | none => .error ⟨.invalidStart, pos, pos + 1, b⟩
    | some (ranges, bits) =>
      match h : readContinuation bits 1 ranges rest with
      | .ok (cp, after) =>
        have : after.length ≤ rest.length := readContinuation_length h
        decodeFrom (pos + 1 + ranges.length) (Char.ofNat cp :: acc) after
      | .error (.unexpectedEnd, _) =>
        .error ⟨.unexpectedEnd, pos, pos + 1 + rest.length, b⟩
      | .error (fault, good) => .error ⟨fault, pos, pos + good, b⟩
termination_by bs => bs.length
decreasing_by all_goals (try simp only [List.length_cons]); omega
where
  readContinuation_length {acc good : Nat} {ranges : List (Nat × Nat)} {bs : List UInt8}
      {cp : Nat} {after : List UInt8}
      (h : readContinuation acc good ranges bs = .ok (cp, after)) : after.length ≤ bs.length := by
    induction ranges generalizing acc good bs with
    | nil =>
      simp only [readContinuation, Except.ok.injEq, Prod.mk.injEq] at h
      obtain ⟨_, rfl⟩ := h
      exact Nat.le_refl _
    | cons r ranges ih =>
      obtain ⟨lo, hi⟩ := r
      cases bs with
      | nil => simp [readContinuation] at h
      | cons b rest =>
        simp only [readContinuation] at h
        split at h
        · have := ih h; simp only [List.length_cons]; omega
        · simp at h

/-- The text that bytes encode in UTF-8, or the first fault. -/
def decode (bs : List UInt8) : Except DecodeError String := decodeFrom 0 [] bs

end Conch.Text
