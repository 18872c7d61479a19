import Conch.Word.Proofs.Gap
/-!
# The splitter reads back what the quoting encoder writes

`Conch.Word.Render` writes a word as a juxtaposition of pieces: a bare piece escapes every
space, tab, quote and backslash, and a piece quoted by `q` escapes `q` and the backslash between
two `q` characters. This module shows that `split` undoes that encoding for every list of
non-empty words, every way of cutting each word into pieces, and every choice of separator
runs (`split_renderLine`).

The proof follows the scanner. A character that the scan keeps as it is in the current quote
mode is an `IsLiteral` character (`step_literal`), and a backslash followed by anything keeps
that thing (`feed_escaped`), so an escaped text adds its characters to the pending word and
leaves the mode as it was (`feed_escapeWith`). A quoted piece opens and closes its quote around
such a text (`feed_render`), and a whole written word leaves the scan outside quotes with the
word's text pending (`feed_renderPieces`). Between words, a run of separators finishes the
pending word (`feed_separatorRun` of `Conch.Word.Proofs.Gap`), and the line is read word by
word (`feed_renderLine`).

The converse half is that the splitter never returns an empty word (`split_ne_empty`): the scan
only ever finishes a non-empty pending word. So every list the splitter returns can be written
back and read again (`split_render_split`). On a line with no backslash and no quote the
splitter is the plain split at spaces and tabs with empty pieces dropped
(`split_eq_blankWords`).
-/

namespace Conch.Word

/-! ### One character -/

theorem Quote.eq_char_of_ofChar? {c : Char} {q : Quote} (h : Quote.ofChar? c = some q) :
    c = q.char := by
  unfold Quote.ofChar? at h
  by_cases hsingle : c = '\''
  · rw [if_pos hsingle] at h
    cases h
    exact hsingle
  · rw [if_neg hsingle] at h
    by_cases hdouble : c = '"'
    · rw [if_pos hdouble] at h
      cases h
      exact hdouble
    · rw [if_neg hdouble] at h
      cases h

/-- A character that the scan keeps as it is in the quote mode `quote`: never a backslash;
outside quotes neither a quote character nor a separator; inside a quote anything but the
character that closes it. -/
def IsLiteral : Option Quote → Char → Prop
  | none, c => c ≠ '\\' ∧ Quote.ofChar? c = none ∧ isSeparator c = false
  | some q, c => c ≠ '\\' ∧ c ≠ q.char

namespace Scan

variable {words : List String} {pending : List Char} {quote : Option Quote}

/-- A literal character joins the pending word and leaves the mode as it was. -/
theorem step_literal {c : Char} (hc : IsLiteral quote c) :
    (⟨words, pending, quote, false⟩ : Scan).step c =
      ⟨words, c :: pending, quote, false⟩ := by
  cases quote with
  | none =>
    obtain ⟨hslash, hquote, hsep⟩ := hc
    simp [step, keep, hslash, hquote, hsep]
  | some q =>
    obtain ⟨hslash, hclose⟩ := hc
    cases hq : Quote.ofChar? c with
    | none => simp [step, keep, hslash, hq]
    | some other =>
      -- the other quote character is literal inside a quote
      have hother : q ≠ other := fun h => hclose (h ▸ Quote.eq_char_of_ofChar? hq)
      simp [step, keep, hslash, hq, hother]

/-- A backslash and the character after it add that character, whatever it is, in every
mode. -/
theorem feed_escaped (c : Char) :
    (⟨words, pending, quote, false⟩ : Scan).feed ['\\', c] =
      ⟨words, c :: pending, quote, false⟩ := by
  simp [feed, step, keep]

/-- The opening quote character of a quote, read outside quotes, enters it. -/
theorem step_open (q : Quote) :
    (⟨words, pending, none, false⟩ : Scan).step q.char =
      ⟨words, pending, some q, false⟩ := by
  cases q <;> rfl

/-- The closing quote character of a quote, read inside it, leaves it. -/
theorem step_close (q : Quote) :
    (⟨words, pending, some q, false⟩ : Scan).step q.char =
      ⟨words, pending, none, false⟩ := by
  cases q <;> rfl

end Scan

/-! ### Pieces and words -/

/-- The text of a word written as the given pieces. -/
def textOf (ps : List Piece) : String := String.join (ps.map Piece.text)

theorem toList_textOf (p : Piece) (ps : List Piece) :
    (textOf (p :: ps)).toList = p.text.toList ++ (textOf ps).toList := by
  simp [textOf, String.join_cons]

/-- Escaping every character that is not literal in a mode makes a text that the scan reads,
in that mode, as the text itself. Assumes: every character `special` leaves alone is literal in
the mode. -/
theorem feed_escapeWith {quote : Option Quote} {special : Char → Bool}
    (hlit : ∀ c, special c = false → IsLiteral quote c) (words : List String) (cs : List Char) :
    ∀ pending : List Char,
      (⟨words, pending, quote, false⟩ : Scan).feed (escapeWith special cs) =
        ⟨words, cs.reverse ++ pending, quote, false⟩ := by
  induction cs with
  | nil => intro pending; rfl
  | cons c cs ih =>
    intro pending
    by_cases hc : special c = true
    · have hsplit : escapeWith special (c :: cs) = ['\\', c] ++ escapeWith special cs := by
        simp [escapeWith, hc]
      rw [hsplit, Scan.feed_append, Scan.feed_escaped, ih]
      simp
    · have hkept : special c = false := by simpa using hc
      rw [escapeWith, if_neg hc, Scan.feed_cons, Scan.step_literal (hlit c hkept), ih]
      simp

theorem isLiteral_of_bare {c : Char} (hc : isBareSpecial c = false) : IsLiteral none c := by
  simp only [isBareSpecial, Bool.or_eq_false_iff, decide_eq_false_iff_not] at hc
  obtain ⟨⟨⟨hsep, hdouble⟩, hsingle⟩, hslash⟩ := hc
  refine ⟨hslash, ?_, hsep⟩
  simp [Quote.ofChar?, hsingle, hdouble]

theorem isLiteral_of_quoted {q : Quote} {c : Char} (hc : isQuotedSpecial q c = false) :
    IsLiteral (some q) c := by
  simp only [isQuotedSpecial, Bool.or_eq_false_iff, decide_eq_false_iff_not] at hc
  exact ⟨hc.2, hc.1⟩

/-- A written piece, read outside quotes, adds its text to the pending word and leaves the
scan outside quotes. -/
theorem feed_render (p : Piece) (words : List String) (pending : List Char) :
    (⟨words, pending, none, false⟩ : Scan).feed p.render =
      ⟨words, p.text.toList.reverse ++ pending, none, false⟩ := by
  cases p with
  | bare t => exact feed_escapeWith (fun _ => isLiteral_of_bare) words t.toList pending
  | quoted q t =>
    rw [Piece.render, Scan.feed_append, Scan.feed_cons ⟨words, pending, none, false⟩,
      Scan.step_open, feed_escapeWith (fun _ => isLiteral_of_quoted) words t.toList pending]
    exact Scan.step_close q

/-- A word written as pieces, read outside quotes, adds the word's text to the pending word. -/
theorem feed_renderPieces (ps : List Piece) (words : List String) :
    ∀ pending : List Char, (⟨words, pending, none, false⟩ : Scan).feed (renderPieces ps) =
      ⟨words, (textOf ps).toList.reverse ++ pending, none, false⟩ := by
  induction ps with
  | nil => intro pending; rfl
  | cons p ps ih =>
    intro pending
    have hsplit : renderPieces (p :: ps) = p.render ++ renderPieces ps := by
      simp [renderPieces]
    rw [hsplit, Scan.feed_append, feed_render, ih, toList_textOf]
    simp

/-! ### Lines -/

/-- Two or more written words: the first, the gap after it (a single space once the gaps run
out), and the rest. -/
theorem renderLine_cons_cons (w w' : List Char) (ws gaps : List (List Char)) :
    renderLine (w :: w' :: ws) gaps = w ++ gaps.headD [' '] ++ renderLine (w' :: ws) gaps.tail := by
  cases gaps <;> simp [renderLine]

theorem renderLine_singleton (w : List Char) (gaps : List (List Char)) :
    renderLine [w] gaps = w := by
  cases gaps <;> rfl

/-- A scan whose pending word holds a non-empty text finishes that text. -/
theorem flush_text (words : List String) {t : String} (ht : t ≠ "") (quote : Option Quote)
    (escaped : Bool) : Scan.flush ⟨words, t.toList.reverse, quote, escaped⟩ = words ++ [t] := by
  have hpending : t.toList.reverse ≠ [] := by
    simpa [String.toList_eq_nil_iff] using ht
  unfold Scan.flush
  split
  · contradiction
  · simp

/-- Separators read outside quotes change what the scan would finish into nothing more. -/
theorem flush_feed_separators (s : Scan) (hs : s.IsPlain) (cs : List Char)
    (hcs : ∀ c ∈ cs, isSeparator c = true) : (s.feed cs).flush = s.flush := by
  cases cs with
  | nil => rfl
  | cons c cs => rw [Scan.feed_separators s hs c cs hcs]; rfl

/-- A line of written words, read from the start, leaves the scan outside quotes, about to
finish exactly those words. Assumes: every word is non-empty and every gap is a separator
run. -/
theorem feed_renderLine (words : List (List Piece)) (gaps : List (List Char))
    (hwords : ∀ ps ∈ words, textOf ps ≠ "") (hgaps : ∀ g ∈ gaps, IsSeparatorRun g) :
    (Scan.start.feed (renderLine (words.map renderPieces) gaps)).IsPlain ∧
      (Scan.start.feed (renderLine (words.map renderPieces) gaps)).flush = words.map textOf := by
  induction words generalizing gaps with
  | nil => exact ⟨⟨rfl, rfl⟩, rfl⟩
  | cons ps rest ih =>
    have hword : (Scan.start.feed (renderPieces ps)) =
        ⟨[], (textOf ps).toList.reverse, none, false⟩ := by
      rw [← List.append_nil (textOf ps).toList.reverse]
      exact feed_renderPieces ps [] []
    cases rest with
    | nil =>
      rw [List.map_singleton, renderLine_singleton, hword, flush_text [] (hwords ps (by simp))]
      exact ⟨⟨rfl, rfl⟩, rfl⟩
    | cons ps' rest =>
      -- the gap after the first word finishes it; the rest is read after that word
      have hgap : IsSeparatorRun (gaps.headD [' ']) := by
        cases gaps with
        | nil => exact ⟨List.cons_ne_nil _ _, by simp [isSeparator]⟩
        | cons g gs => exact hgaps g (by simp)
      have hfirst : (Scan.start.feed (renderPieces ps)).feed (gaps.headD [' ']) =
          Scan.start.afterWords [textOf ps] := by
        rw [feed_separatorRun _ (by rw [hword]; exact ⟨rfl, rfl⟩) _ hgap, hword,
          flush_text [] (hwords ps (by simp))]
        rfl
      obtain ⟨hplain, hflush⟩ := ih gaps.tail
        (fun q hq => hwords q (List.mem_cons_of_mem ps hq))
        (fun g hg => hgaps g (List.mem_of_mem_tail hg))
      rw [List.map_cons, List.map_cons, renderLine_cons_cons, Scan.feed_append, Scan.feed_append,
        hfirst, Scan.feed_afterWords]
      refine ⟨hplain, ?_⟩
      rw [Scan.flush_afterWords, ← List.map_cons, hflush]
      rfl

/-- The splitter reads back a line of written words: whatever pieces each non-empty word is
cut into, whatever runs of separators stand between the words, and whatever runs of separators
stand before the first and after the last. -/
theorem split_renderLine (words : List (List Piece)) (gaps : List (List Char))
    (lead trail : List Char) (hwords : ∀ ps ∈ words, textOf ps ≠ "")
    (hgaps : ∀ g ∈ gaps, IsSeparatorRun g) (hlead : ∀ c ∈ lead, isSeparator c = true)
    (htrail : ∀ c ∈ trail, isSeparator c = true) :
    split (String.ofList (lead ++ renderLine (words.map renderPieces) gaps ++ trail)) =
      words.map textOf := by
  have hstart : Scan.start.feed lead = Scan.start := Scan.feed_separators_of_empty [] lead hlead
  obtain ⟨hplain, hflush⟩ := feed_renderLine words gaps hwords hgaps
  rw [split, String.toList_ofList, Scan.feed_append, Scan.feed_append, hstart,
    flush_feed_separators _ hplain trail htrail, hflush]

/-! ### The words the splitter returns -/

/-- Finishing the pending word adds no empty word. -/
theorem flush_ne_empty (s : Scan) (hs : ∀ w ∈ s.words, w ≠ "") :
    ∀ w ∈ s.flush, w ≠ "" := by
  unfold Scan.flush
  split
  · exact hs
  · next pending hpending =>
    intro w hw
    rcases List.mem_append.mp hw with hold | hnew
    · exact hs w hold
    · rw [List.mem_singleton.mp hnew, Ne, String.ofList_eq_empty_iff, List.reverse_eq_nil_iff]
      exact hpending

/-- A character either leaves the finished words alone or finishes the pending word. -/
theorem step_words (s : Scan) (c : Char) :
    (s.step c).words = s.words ∨ (s.step c).words = s.flush := by
  -- only the separator branch touches the finished words
  unfold Scan.step Scan.keep
  split <;> (repeat' split) <;> simp

theorem feed_words_ne_empty (cs : List Char) :
    ∀ s : Scan, (∀ w ∈ s.words, w ≠ "") → ∀ w ∈ (s.feed cs).words, w ≠ "" := by
  induction cs with
  | nil => intro s hs; exact hs
  | cons c cs ih =>
    intro s hs
    rw [Scan.feed_cons]
    apply ih
    rcases step_words s c with hsame | hflush
    · rw [hsame]; exact hs
    · rw [hflush]; exact flush_ne_empty s hs

/-- The splitter never returns an empty word: quotes that enclose nothing and a trailing
backslash add no word. -/
theorem split_ne_empty (line : String) : ∀ w ∈ split line, w ≠ "" :=
  flush_ne_empty _ (feed_words_ne_empty line.toList Scan.start (by simp [Scan.start]))

/-- The words the splitter returns, written in any of the ways `split_renderLine` allows, are
read back as the same words. -/
theorem split_render_split (line : String) (words : List (List Piece))
    (gaps : List (List Char)) (lead trail : List Char) (hwords : words.map textOf = split line)
    (hgaps : ∀ g ∈ gaps, IsSeparatorRun g) (hlead : ∀ c ∈ lead, isSeparator c = true)
    (htrail : ∀ c ∈ trail, isSeparator c = true) :
    split (String.ofList (lead ++ renderLine (words.map renderPieces) gaps ++ trail)) =
      split line := by
  have hnonempty : ∀ ps ∈ words, textOf ps ≠ "" := fun ps hps =>
    split_ne_empty line _ (hwords ▸ List.mem_map_of_mem hps)
  rw [split_renderLine words gaps lead trail hnonempty hgaps hlead htrail, hwords]

/-! ### Lines without quotes or backslashes -/

/-- The plain split of a text: cut at every space and tab, empty pieces dropped. -/
def blankWords (cs : List Char) : List String :=
  ((cs.splitOnP isSeparator).filter fun w => !w.isEmpty).map String.ofList

/-- A separator cuts the plain split in two. -/
theorem blankWords_append_separator {c : Char} (hc : isSeparator c = true) (x y : List Char) :
    blankWords (x ++ c :: y) = blankWords x ++ blankWords y := by
  unfold blankWords
  rw [List.splitOnP_append_cons x y hc, List.filter_append, List.map_append]

/-- A pending word with no separator in it is what the plain split makes of it. -/
theorem flush_plain (words : List String) (pending : List Char)
    (hpending : ∀ c ∈ pending, isSeparator c = false) :
    Scan.flush ⟨words, pending, none, false⟩ = words ++ blankWords pending.reverse := by
  have hsingle : pending.reverse.splitOnP isSeparator = [pending.reverse] :=
    List.splitOnP_eq_singleton fun c hc => hpending c (List.mem_reverse.mp hc)
  unfold blankWords
  rw [hsingle]
  -- an empty pending word finishes nothing, and the plain split drops the empty piece
  cases pending <;> simp [Scan.flush]

/-- Outside quotes, a text without backslashes and quote characters is read as its plain
split, joined to the pending word. Assumes: the pending word holds no separator. -/
theorem flush_feed_plain (cs : List Char)
    (hcs : ∀ c ∈ cs, c ≠ '\\' ∧ Quote.ofChar? c = none) :
    ∀ (words : List String) (pending : List Char), (∀ c ∈ pending, isSeparator c = false) →
      (Scan.feed ⟨words, pending, none, false⟩ cs).flush =
        words ++ blankWords (pending.reverse ++ cs) := by
  induction cs with
  | nil => intro words pending hpending; simpa using flush_plain words pending hpending
  | cons c cs ih =>
    intro words pending hpending
    have hrest : ∀ d ∈ cs, d ≠ '\\' ∧ Quote.ofChar? d = none :=
      fun d hd => hcs d (List.mem_cons_of_mem c hd)
    rw [Scan.feed_cons]
    by_cases hsep : isSeparator c = true
    · -- a separator finishes the pending word
      rw [Scan.step_separator _ c hsep ⟨rfl, rfl⟩, ih hrest _ [] (by simp),
        flush_plain words pending hpending, blankWords_append_separator hsep]
      simp
    · -- any other character joins the pending word
      obtain ⟨hslash, hquote⟩ := hcs c List.mem_cons_self
      have hliteral : IsLiteral none c := ⟨hslash, hquote, by simpa using hsep⟩
      rw [Scan.step_literal hliteral, ih hrest words (c :: pending)
        (by simpa [hsep] using hpending)]
      simp

/-- On a line with no backslash and no quote character, the splitter is the plain split at
spaces and tabs with the empty pieces dropped. -/
theorem split_eq_blankWords (line : String)
    (hline : ∀ c ∈ line.toList, c ≠ '\\' ∧ c ≠ '"' ∧ c ≠ '\'') :
    split line = blankWords line.toList := by
  have hplain : ∀ c ∈ line.toList, c ≠ '\\' ∧ Quote.ofChar? c = none := by
    intro c hc
    obtain ⟨hslash, hdouble, hsingle⟩ := hline c hc
    exact ⟨hslash, by simp [Quote.ofChar?, hsingle, hdouble]⟩
  have hflush := flush_feed_plain line.toList hplain [] [] (by simp)
  rw [List.reverse_nil, List.nil_append, List.nil_append] at hflush
  exact hflush

/-! ### The decoding law -/

/-- The splitter decodes the quoting encoder. Every list of non-empty words, each cut into bare
and quoted pieces in any way, joined by runs of spaces and tabs with optional runs before and
after, is read back as those words. Every word the splitter returns is non-empty, so what it
returns, written again in any of these ways, is read back unchanged; and on a line without
backslashes and quote characters it is the plain split at spaces and tabs. -/
theorem split_decodes_quoting :
    (∀ (words : List (List Piece)) (gaps : List (List Char)) (lead trail : List Char),
      (∀ ps ∈ words, textOf ps ≠ "") → (∀ g ∈ gaps, IsSeparatorRun g) →
      (∀ c ∈ lead, isSeparator c = true) → (∀ c ∈ trail, isSeparator c = true) →
      split (String.ofList (lead ++ renderLine (words.map renderPieces) gaps ++ trail)) =
        words.map textOf) ∧
    (∀ line : String, ∀ w ∈ split line, w ≠ "") ∧
    (∀ (line : String) (words : List (List Piece)) (gaps : List (List Char))
      (lead trail : List Char), words.map textOf = split line →
      (∀ g ∈ gaps, IsSeparatorRun g) → (∀ c ∈ lead, isSeparator c = true) →
      (∀ c ∈ trail, isSeparator c = true) →
      split (String.ofList (lead ++ renderLine (words.map renderPieces) gaps ++ trail)) =
        split line) ∧
    (∀ line : String, (∀ c ∈ line.toList, c ≠ '\\' ∧ c ≠ '"' ∧ c ≠ '\'') →
      split line = blankWords line.toList) :=
  ⟨split_renderLine, split_ne_empty, split_render_split, split_eq_blankWords⟩

/-- Two words, the second cut into a double-quoted piece holding a quote and a bare piece
holding the other quote, read back from a line with a tab in its gap. -/
theorem split_decodes_quoted_sample :
    (∀ ps ∈ [[Piece.bare "a b"], [.quoted .double "c\"d", .bare "'e"]], textOf ps ≠ "") ∧
    (∀ g ∈ [[' ', '\t']], IsSeparatorRun g) ∧
    split (String.ofList ([' '] ++
      renderLine ([[Piece.bare "a b"], [.quoted .double "c\"d", .bare "'e"]].map renderPieces)
        [[' ', '\t']] ++ [' '])) = ["a b", "c\"d'e"] := by
  have hwords : ∀ ps ∈ [[Piece.bare "a b"], [.quoted .double "c\"d", .bare "'e"]],
      textOf ps ≠ "" := by decide +kernel
  have hgaps : ∀ g ∈ [[' ', '\t']], IsSeparatorRun g := by decide +kernel
  refine ⟨hwords, hgaps, ?_⟩
  rw [split_decodes_quoting.1 _ _ _ _ hwords hgaps (by simp [isSeparator])
    (by simp [isSeparator])]
  decide +kernel

end Conch.Word
