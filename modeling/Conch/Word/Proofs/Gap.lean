import Conch.Word.Render
/-!
Runs of separators between words.

Main statement (`split_append_gap`): when the text before a run of spaces and tabs leaves the
splitter outside quotes with no escaping backslash pending, the run cuts the line in two, and the
words of the whole line are the words before the run followed by the words after it; a run at the
end of a line or at its start adds no word.
-/

namespace Conch.Word

theorem afterWords_start (ws : List String) :
    Scan.start.afterWords ws = ⟨ws, [], none, false⟩ := by
  simp [Scan.start, Scan.afterWords]

/-- A run of separators read outside quotes finishes the pending word and nothing more. -/
theorem feed_separatorRun (s : Scan) (hs : s.IsPlain) (w : List Char) (hw : IsSeparatorRun w) :
    s.feed w = Scan.start.afterWords s.flush := by
  obtain ⟨hne, hsep⟩ := hw
  rw [afterWords_start]
  cases w with
  | nil => exact absurd rfl hne
  | cons c cs => exact Scan.feed_separators s hs c cs hsep

/-- What a scan reads after finished words is the words of the text read on its own. -/
theorem flush_feed_afterWords (ws : List String) (cs : List Char) :
    ((Scan.start.afterWords ws).feed cs).flush = ws ++ split (String.ofList cs) := by
  rw [Scan.feed_afterWords, Scan.flush_afterWords, split, String.toList_ofList]

theorem split_append_gap (a w b : String) (hw : IsSeparatorRun w.toList)
    (ha : (Scan.start.feed a.toList).IsPlain) :
    split (a ++ w ++ b) = split a ++ split b ∧ split (a ++ w) = split a ∧
      split (w ++ b) = split b := by
  have hrun := feed_separatorRun _ ha w.toList hw
  have hfirst : Scan.start.feed w.toList = Scan.start.afterWords [] :=
    feed_separatorRun _ ⟨rfl, rfl⟩ w.toList hw
  refine ⟨?_, ?_, ?_⟩
  · have := flush_feed_afterWords (split a) b.toList
    rw [String.ofList_toList] at this
    simp only [split, String.toList_append, Scan.feed_append, hrun]
    exact this
  · simp only [split, String.toList_append, Scan.feed_append, hrun, Scan.flush_afterWords]
    exact List.append_nil _
  · have := flush_feed_afterWords [] b.toList
    rw [String.ofList_toList, List.nil_append] at this
    simp only [split, String.toList_append, Scan.feed_append, hfirst]
    exact this

theorem split_gap_after_quotes :
    IsSeparatorRun " \t".toList ∧ (Scan.start.feed "echo 'a b'".toList).IsPlain ∧
      split ("echo 'a b'" ++ " \t" ++ "c") = split "echo 'a b'" ++ split "c" := by
  have hw : IsSeparatorRun " \t".toList := by decide +kernel
  have ha : (Scan.start.feed "echo 'a b'".toList).IsPlain := by decide +kernel
  exact ⟨hw, ha, (split_append_gap "echo 'a b'" " \t" "c" hw ha).1⟩

end Conch.Word
