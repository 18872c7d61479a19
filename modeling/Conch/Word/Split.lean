/-!
Splitting a command line into words.

A line is read character by character. A backslash takes the next character literally, inside
quotes as well as outside. A single or double quote opens a quoted stretch that the same quote
character closes; inside it the other quote character is literal. Outside quotes, runs of spaces
and tabs separate words; every other character, newlines included, belongs to a word. Quotes and
escaping backslashes are not part of the words, a pending backslash at the end of the line is
dropped, an unclosed quote simply ends with the line, and empty words are not kept, so `''` gives
no word at all.
-/

namespace Conch.Word

/-- The two quote characters of a command line. -/
inductive Quote
  | single
  | double
  deriving DecidableEq, Repr

namespace Quote

/-- The character that opens and closes the quote. -/
def char : Quote → Char
  | single => '\''
  | double => '"'

/-- The quote a character opens, if it is a quote character. -/
def ofChar? (c : Char) : Option Quote :=
  if c = '\'' then some single else if c = '"' then some double else none

theorem ofChar?_char (q : Quote) : ofChar? q.char = some q := by
  cases q <;> decide

end Quote

/-- The characters that separate words outside quotes. -/
def isSeparator (c : Char) : Bool := c = ' ' || c = '\t'

/-- What the splitter carries from one character to the next. -/
structure Scan where
  /-- The words finished so far, in order. -/
  words : List String
  /-- The characters of the word being read, last one first. -/
  pending : List Char
  /-- The quote the scan is inside of. -/
  quote : Option Quote
  /-- Whether the previous character was an escaping backslash. -/
  escaped : Bool

namespace Scan

/-- The scan before the first character of a line. -/
def start : Scan := ⟨[], [], none, false⟩

/-- The words read so far, the pending one included when it is not empty. -/
def flush (s : Scan) : List String :=
  match s.pending with
  | [] => s.words
  | cs => s.words ++ [String.ofList cs.reverse]

/-- Adds a character to the pending word. -/
def keep (s : Scan) (c : Char) : Scan := { s with pending := c :: s.pending, escaped := false }

/-- Reads one character. -/
def step (s : Scan) (c : Char) : Scan :=
  if s.escaped then s.keep c
  else if c = '\\' then { s with escaped := true }
  else match Quote.ofChar? c with
    | some q =>
      match s.quote with
      | none => { s with quote := some q }
      | some inside => if inside = q then { s with quote := none } else s.keep c
    | none =>
      if isSeparator c && s.quote.isNone then { s with words := s.flush, pending := [] }
      else s.keep c

/-- The scan after reading a list of characters. -/
def feed (s : Scan) (cs : List Char) : Scan := cs.foldl step s

/-- A scan outside quotes with no escaping backslash pending. -/
def IsPlain (s : Scan) : Prop := s.quote = none ∧ s.escaped = false

instance : DecidablePred IsPlain
  | ⟨_, _, none, false⟩ => isTrue ⟨rfl, rfl⟩
  | ⟨_, _, some _, _⟩ => isFalse fun h => nomatch h.1
  | ⟨_, _, none, true⟩ => isFalse fun h => nomatch h.2

/-- The scan with the words `ws` finished before its own. -/
def afterWords (ws : List String) (s : Scan) : Scan := { s with words := ws ++ s.words }

@[simp] theorem feed_nil (s : Scan) : s.feed [] = s := rfl

theorem feed_cons (s : Scan) (c : Char) (cs : List Char) : s.feed (c :: cs) = (s.step c).feed cs :=
  rfl

theorem feed_append (s : Scan) (cs ds : List Char) : s.feed (cs ++ ds) = (s.feed cs).feed ds :=
  List.foldl_append

theorem flush_afterWords (ws : List String) (s : Scan) :
    (s.afterWords ws).flush = ws ++ s.flush := by
  unfold flush afterWords
  split <;> simp_all

theorem step_afterWords (ws : List String) (s : Scan) (c : Char) :
    (s.afterWords ws).step c = (s.step c).afterWords ws := by
  obtain ⟨words, pending, quote, escaped⟩ := s
  have hflush := flush_afterWords ws ⟨words, pending, quote, escaped⟩
  unfold afterWords at hflush
  unfold step keep afterWords
  cases escaped with
  | true => simp
  | false =>
    by_cases hc : c = '\\'
    · simp [hc]
    · cases hq : Quote.ofChar? c with
      | some q =>
        cases quote with
        | none => simp [hc]
        | some inside => by_cases hi : inside = q <;> simp [hc, hi]
      | none =>
        by_cases hsep : (isSeparator c && quote.isNone) = true
        · simp only [hc, hsep, if_true, if_false, Bool.false_eq_true]
          rw [hflush]
        · simp only [hc, hsep, if_false, Bool.false_eq_true]

/-- Words finished before a scan stay in front of everything it reads. -/
theorem feed_afterWords (ws : List String) (s : Scan) (cs : List Char) :
    (s.afterWords ws).feed cs = (s.feed cs).afterWords ws := by
  induction cs generalizing s with
  | nil => rfl
  | cons c cs ih => rw [feed_cons, step_afterWords, ih, feed_cons]

/-- A separator read outside quotes finishes the pending word. -/
theorem step_separator (s : Scan) (c : Char) (hc : isSeparator c = true) (hs : s.IsPlain) :
    s.step c = ⟨s.flush, [], none, false⟩ := by
  have hne : c ≠ '\\' := by
    intro h; subst h; simp [isSeparator] at hc
  have hq : Quote.ofChar? c = none := by
    unfold Quote.ofChar?
    have h1 : c ≠ '\'' := by intro h; subst h; simp [isSeparator] at hc
    have h2 : c ≠ '"' := by intro h; subst h; simp [isSeparator] at hc
    simp [h1, h2]
  obtain ⟨hquote, hesc⟩ := hs
  unfold step
  simp only [hesc, hne, hq, hc, hquote, Option.isNone_none, Bool.and_self, if_true,
    Bool.false_eq_true, if_false]

/-- Separators read outside quotes leave a scan with no pending word, whatever their number. -/
theorem feed_separators_of_empty (ws : List String) (cs : List Char)
    (hcs : ∀ c ∈ cs, isSeparator c = true) :
    (⟨ws, [], none, false⟩ : Scan).feed cs = ⟨ws, [], none, false⟩ := by
  induction cs with
  | nil => rfl
  | cons c cs ih =>
    rw [feed_cons, step_separator _ c (hcs c (by simp)) ⟨rfl, rfl⟩]
    exact ih fun d hd => hcs d (by simp [hd])

/-- A non-empty run of separators read outside quotes finishes the pending word and nothing
more. -/
theorem feed_separators (s : Scan) (hs : s.IsPlain) (c : Char) (cs : List Char)
    (hcs : ∀ d ∈ c :: cs, isSeparator d = true) : s.feed (c :: cs) = ⟨s.flush, [], none, false⟩ := by
  rw [feed_cons, step_separator s c (hcs c (by simp)) hs]
  exact feed_separators_of_empty _ cs fun d hd => hcs d (by simp [hd])

end Scan

/-- The words of a command line. -/
def split (line : String) : List String := (Scan.start.feed line.toList).flush

example : split "echo  'a b'\t\"c\\\"d\" e\\ f" = ["echo", "a b", "c\"d", "e f"] := by decide +kernel
example : split "'' \"\" x\\" = ["x"] := by decide +kernel

end Conch.Word
