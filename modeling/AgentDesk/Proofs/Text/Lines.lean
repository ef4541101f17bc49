import AgentDesk.Proofs.Text.Pieces
/-!
# Lines

No line of a text holds a line feed, and texts without line feeds that are joined by line feeds are
cut into the same texts again.
-/

namespace AgentDesk.Text

variable {s l : String} {parts : List String}

theorem of_mem_dropReturn {cs : List Char} {c : Char} (h : c ∈ dropReturn cs) : c ∈ cs := by
  unfold dropReturn at h
  split at h
  · rename_i r hr
    have hmem : c ∈ cs.reverse := hr ▸ List.mem_cons_of_mem _ (List.mem_reverse.mp h)
    exact List.mem_reverse.mp hmem
  · exact h

theorem notMem_of_mem_linesOf {cs line : List Char} (h : line ∈ linesOf cs) : '\n' ∉ line := by
  have hpiece {w : List Char} (hw : w ∈ splitOn (· == '\n') cs) : '\n' ∉ w := by
    rw [splitOn_eq_splitOnP] at hw
    exact fun hc => by simpa using (of_mem_splitOnP hw _ hc).2
  unfold linesOf at h
  split at h
  · cases h
  · rename_i rest ended hpieces
    have hmem {w : List Char} (hw : w ∈ rest :: ended) : w ∈ splitOn (· == '\n') cs :=
      List.mem_reverse.mp (hpieces ▸ hw)
    rcases List.mem_append.mp h with h | h
    · obtain ⟨w, hw, rfl⟩ := List.mem_map.mp (List.mem_reverse.mp h)
      exact fun hc => hpiece (hmem (List.mem_cons_of_mem _ hw)) (of_mem_dropReturn hc)
    · split at h
      · cases h
      · exact List.mem_singleton.mp h ▸ hpiece (hmem List.mem_cons_self)

/-- No line holds a line feed. -/
theorem notMem_of_mem_lines (h : l ∈ lines s) : '\n' ∉ l.toList := by
  obtain ⟨line, hline, rfl⟩ := List.mem_map.mp h
  simpa using notMem_of_mem_linesOf hline

/-- **What was joined by line feeds is cut at them again.** -/
theorem splitChar_join (hne : parts ≠ []) (h : ∀ p ∈ parts, '\n' ∉ p.toList) :
    splitChar '\n' (join "\n" parts) = parts := by
  have hsplit :
      (['\n'].intercalate (parts.map String.toList)).splitOn '\n' = parts.map String.toList :=
    List.splitOn_intercalate '\n' (List.forall_mem_map.mpr h) (by simpa using hne)
  rw [splitChar, splitOn_eq_splitOnP, join, String.toList_intercalate]
  change (List.splitOn '\n' (['\n'].intercalate _)).map String.ofList = parts
  rw [hsplit, List.map_map]
  simp [Function.comp_def]

end AgentDesk.Text
