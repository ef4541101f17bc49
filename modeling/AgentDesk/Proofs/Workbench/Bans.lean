import AgentDesk.Proofs.Text.LowerCase
import AgentDesk.Proofs.Workbench.Guard
import AgentDesk.Workbench.Terminal
/-!
# The ban list of the shell

A ban means words: a command is banned if one of its segments begins with the words of an entry of
the ban list, whatever the case of its letters and however many blanks there are. The tool compares
texts. It refuses banned commands only, and it refuses all of them exactly if the first word of each
entry is an entry by itself.

## Main definitions

* `Banned` — a segment of a command begins with the words of an entry.
* `Opens` — a segment begins with a text to the letter.
* `FirstWordsListed` — the first words of the entries are entries.
-/

namespace AgentDesk.Terminal

open Text

variable {blocked : List String} {command : String} {entry piece segment v w : List Char} {c : Char}
  {ws : List (List Char)}

/-! ## The meaning of a ban -/

/-- The texts of a ban list: those that are always banned and those of the settings. -/
def entries (blocked : List String) : List (List Char) :=
  (bannedAlways ++ blocked).map String.toList

/-- A text without separators is one segment. -/
def Single (s : List Char) : Prop := ∀ c ∈ s, separates c = false

instance (s : List Char) : Decidable (Single s) :=
  List.decidableBAll (fun c => separates c = false) s

/-- A segment of a command begins with the words of an entry. An entry that holds a separator, or no
word, bans nothing. -/
def Banned (blocked : List String) (command : String) : Prop :=
  ∃ entry ∈ entries blocked, Single entry ∧ words entry ≠ [] ∧
    ∃ segment ∈ command.toList.splitOnP separates,
      words (caseless entry) <+: words (caseless segment)

theorem untouched_of_separates (h : separates c = true) : Untouched c.toNat := by
  have hmarks : ∀ n ∈ [10, 59, 124, 38, 40, 41, 96], Untouched n := by decide +kernel
  refine hmarks _ ?_
  simp only [separates, Bool.or_eq_true, beq_iff_eq] at h
  rcases h with (((((rfl | rfl) | rfl) | rfl) | rfl) | rfl) | rfl <;> decide

theorem single_lowerText : Single (lowerText entry) ↔ Single entry := by
  have hmarks := exists_mark_lowerText_iff (s := entry) fun _ => untouched_of_separates
  simpa [Single] using hmarks.not

/-- The segments of a command in lower case are those of the command, without cases. -/
theorem map_splitOnP_lowerText (s : List Char) :
    ((lowerText s).splitOnP separates).map (·.map unfinal) =
      (s.splitOnP separates).map caseless := by
  rw [← splitOnP_map_unfinal fun _ => untouched_of_separates, map_unfinal_lowerText,
    splitOnP_caseless fun _ => untouched_of_separates]

/-! ## What the tool compares -/

/-- A trimmed segment begins with a text, to the letter, and no word goes on behind it. -/
def Opens (entry segment : List Char) : Prop :=
  entry ≠ [] ∧ ∃ rest, strip segment = entry ++ rest ∧ ∀ c ∈ rest.head?, isBlank c = true

theorem startsWithWords_iff {banned : List Char} : startsWithWords segment banned = true ↔
    ∃ rest, segment = banned ++ rest ∧ ∀ c ∈ rest.head?, isBlank c = true := by
  rw [startsWithWords]
  cases hrest : dropPrefix? banned segment with
  | none =>
    refine iff_of_false nofun ?_
    rintro ⟨rest, hsegment, -⟩
    rw [dropPrefix?_eq_some_iff.mpr hsegment] at hrest
    cases hrest
  | some rest =>
    obtain rfl := dropPrefix?_eq_some_iff.mp hrest
    cases rest <;> simp

theorem lower_of_mem_bannedAlways : ∀ b ∈ bannedAlways, lower b = b := by decide +kernel

/-- **A command is refused if one of its segments begins with an entry**, both in lower case. -/
theorem isSome_bannedIn?_iff : (bannedIn? blocked command).isSome = true ↔
    ∃ piece ∈ (lowerText command.toList).splitOnP separates, ∃ entry ∈ entries blocked,
      Opens (lowerText entry) piece := by
  have hlower : bannedAlways ++ blocked.map lower = (bannedAlways ++ blocked).map lower := by
    rw [List.map_append, List.map_congr_left lower_of_mem_bannedAlways, List.map_id']
  rw [bannedIn?, hlower, List.findSome?_isSome_iff]
  constructor
  · rintro ⟨trimmed, htrimmed, hfind⟩
    rw [segments, splitOn_eq_splitOnP, List.mem_filter, List.mem_map] at htrimmed
    obtain ⟨⟨piece, hpiece, rfl⟩, hne⟩ := htrimmed
    obtain ⟨banned, hbanned, hstarts⟩ := List.find?_isSome.mp hfind
    obtain ⟨text, htext, rfl⟩ := List.mem_map.mp hbanned
    rw [lower, String.toList_ofList] at hstarts
    obtain ⟨rest, hstrip, hrest⟩ := startsWithWords_iff.mp hstarts
    refine ⟨piece, hpiece, text.toList, List.mem_map_of_mem htext, fun hempty => ?_, rest, hstrip,
      hrest⟩
    -- Behind the empty text a trimmed segment would have to begin with a blank.
    rw [hempty, List.nil_append] at hstrip
    cases rest with
    | nil => simp [hstrip] at hne
    | cons c rest =>
      have hc : isBlank c = false := isBlank_head_strip (s := piece) (by rw [hstrip]; rfl)
      rw [hrest c rfl] at hc
      cases hc
  · rintro ⟨piece, hpiece, entry, hentry, hne, rest, hstrip, hrest⟩
    obtain ⟨text, htext, rfl⟩ := List.mem_map.mp hentry
    refine ⟨strip piece, ?_, ?_⟩
    · rw [segments, splitOn_eq_splitOnP, List.mem_filter, hstrip]
      exact ⟨hstrip ▸ List.mem_map_of_mem hpiece, by simp [hne]⟩
    · refine List.find?_isSome.mpr ⟨lower text, List.mem_map_of_mem htext, ?_⟩
      rw [lower, String.toList_ofList]
      exact startsWithWords_iff.mpr ⟨rest, hstrip, hrest⟩

/-- An entry that a segment begins with holds a word, and the segment begins with its words. -/
theorem Opens.words (h : Opens entry piece) :
    Text.words entry ≠ [] ∧ Text.words entry <+: Text.words piece := by
  obtain ⟨hne, rest, hpiece, hrest⟩ := h
  constructor
  · rcases exists_first_word entry with hblank |
      ⟨front, w, behind, hentry, hfront, hw, hword, hbehind⟩
    · -- A trimmed text does not begin with a blank.
      obtain ⟨c, entry, rfl⟩ := List.exists_cons_of_ne_nil hne
      have hc : isBlank c = false := isBlank_head_strip (s := piece) (by rw [hpiece]; rfl)
      rw [hblank c List.mem_cons_self] at hc
      cases hc
    · have happart : Apart front (w ++ behind) :=
        .inl fun c hc => hfront c (List.mem_of_getLast? hc)
      rw [hentry, words_append happart, words_append (.inr hbehind), words_of_word hw hword]
      simp
  · rw [← words_strip piece, hpiece, words_append (.inr hrest)]
    exact List.prefix_append _ _

/-- A trimmed segment begins with its first word. -/
theorem opens_first_word (h : words piece = v :: ws) : Opens v piece := by
  obtain ⟨rest, hpiece, hrest, -⟩ := exists_strip_of_words h
  exact ⟨(of_mem_words (h ▸ List.mem_cons_self)).1, rest, hpiece, hrest⟩

/-! ## What is refused -/

/-- **A command that is refused is banned.** -/
theorem banned_of_isSome (h : (bannedIn? blocked command).isSome = true) :
    Banned blocked command := by
  obtain ⟨piece, hpiece, entry, hentry, hopens⟩ := isSome_bannedIn?_iff.mp h
  obtain ⟨hne, hbegins⟩ := hopens.words
  have hsegment : piece.map unfinal ∈ (command.toList.splitOnP separates).map caseless := by
    rw [← map_splitOnP_lowerText]
    exact List.mem_map_of_mem hpiece
  obtain ⟨segment, hsegment, hcaseless⟩ := List.mem_map.mp hsegment
  refine ⟨entry, hentry, fun c hc => ?_, fun hnil => ?_, segment, hsegment, ?_⟩
  · -- The entry stands in a segment, where there are no separators.
    refine single_lowerText.mp (fun d hd => ?_) c hc
    obtain ⟨-, rest, hstrip, -⟩ := hopens
    obtain ⟨front, back, hwhole, -⟩ := exists_append_strip piece
    have hmem : d ∈ piece := by
      rw [hwhole, hstrip]
      simp [hd]
    exact (of_mem_splitOnP hpiece d hmem).2
  · have hwords := words_caseless entry
    rw [words_caseless_eq, hnil, List.map_nil, List.map_eq_nil_iff] at hwords
    exact hne hwords
  · rw [words_caseless_eq, hcaseless, words_map_unfinal]
    exact hbegins.map _

/-- The first word of each entry is an entry by itself, in each spelling of the small sigma. -/
def FirstWordsListed (blocked : List String) : Prop :=
  ∀ entry ∈ entries blocked, Single entry →
    ∀ w ws, words (caseless entry) = w :: ws → ∀ v : List Char, v.map unfinal = w →
      ∃ entry' ∈ entries blocked, lowerText entry' = v

/-- **Then a banned command is refused**: its first word is enough. -/
theorem isSome_of_banned (hlisted : FirstWordsListed blocked) (h : Banned blocked command) :
    (bannedIn? blocked command).isSome = true := by
  obtain ⟨entry, hentry, hplain, hne, segment, hsegment, hbegins⟩ := h
  obtain ⟨w, ws, hwords⟩ : ∃ w ws, words (caseless entry) = w :: ws := by
    refine List.exists_cons_of_ne_nil fun hnil => hne ?_
    rwa [words_caseless, List.map_eq_nil_iff] at hnil
  have hpiece : caseless segment ∈ ((lowerText command.toList).splitOnP separates).map
      (·.map unfinal) := by
    rw [map_splitOnP_lowerText]
    exact List.mem_map_of_mem hsegment
  obtain ⟨piece, hpiece, hcaseless⟩ := List.mem_map.mp hpiece
  obtain ⟨more, hmore⟩ := hbegins
  rw [← hcaseless, words_map_unfinal, hwords, List.cons_append, eq_comm,
    List.map_eq_cons_iff] at hmore
  obtain ⟨v, vs, hpiecewords, hv, -⟩ := hmore
  obtain ⟨entry', hentry', rfl⟩ := hlisted entry hentry hplain w ws hwords v hv
  exact isSome_bannedIn?_iff.mpr ⟨piece, hpiece, entry', hentry', opens_first_word hpiecewords⟩

/-! ## What a ban list needs -/

/-- A command of one segment is refused if the segment begins with an entry. -/
theorem isSome_bannedIn?_ofList_iff {t : List Char} (ht : Single t) :
    (bannedIn? blocked (String.ofList t)).isSome = true ↔
      ∃ entry ∈ entries blocked, Opens (lowerText entry) (lowerText t) := by
  rw [isSome_bannedIn?_iff, String.toList_ofList,
    List.splitOnP_eq_singleton (single_lowerText.mpr ht)]
  simp

theorem banned_ofList {t : List Char} (ht : Single t) (hentry : entry ∈ entries blocked)
    (hsingle : Single entry) (hne : words entry ≠ [])
    (hbegins : words (caseless entry) <+: words (caseless t)) :
    Banned blocked (String.ofList t) := by
  refine ⟨entry, hentry, hsingle, hne, t, ?_, hbegins⟩
  rw [String.toList_ofList, List.splitOnP_eq_singleton ht]
  exact List.mem_singleton_self t

/-- A word begins with no other text. -/
theorem Opens.eq_of_word (h : Opens entry v) (hv : ∀ c ∈ v, isBlank c = false) : entry = v := by
  obtain ⟨-, rest, hstrip, hrest⟩ := h
  rw [strip_of_word hv] at hstrip
  cases rest with
  | nil => simpa using hstrip.symm
  | cons c rest =>
    have hc := hv c (by simp [hstrip])
    rw [hrest c rfl] at hc
    cases hc

/-- If all that is banned is refused, an entry of one word is listed in each spelling. -/
theorem exists_entry_of_word (hcomplete : ∀ command, Banned blocked command →
    (bannedIn? blocked command).isSome = true) (hentry : entry ∈ entries blocked)
    (hsingle : Single entry) (hword : words (caseless entry) = [w]) (hv : v.map unfinal = w) :
    ∃ entry' ∈ entries blocked, lowerText entry' = v := by
  have hw := of_mem_words (s := caseless entry) (w := w) (by simp [hword])
  have hvword := isBlank_of_map_unfinal (v := v) fun c hc => (hw.2 c (hv ▸ hc)).2
  rw [words_caseless, List.map_eq_singleton_iff] at hword
  obtain ⟨r, hr, hrw⟩ := hword
  have hrmem := of_mem_words (s := entry) (w := r) (by simp [hr])
  obtain ⟨t, rfl, ht⟩ := exists_lowerText_eq (hv.trans hrw.symm)
  have htsingle : Single t := fun c hc => by
    rcases ht c hc with hmem | hsigma
    · exact hsingle c (hrmem.2 c hmem).1
    · exact Bool.eq_false_iff.mpr fun h =>
        not_untouched_of_isSigma hsigma (untouched_of_separates h)
  have hbanned : Banned blocked (String.ofList t) := by
    refine banned_ofList htsingle hentry hsingle (by simp [hr]) ?_
    have hwword : words w = [w] := words_of_word hw.1 fun c hc => (hw.2 c hc).2
    rw [← map_unfinal_lowerText t, hv, hwword, words_caseless, hr, List.map_singleton, hrw]
  obtain ⟨entry', hentry', hopens⟩ :=
    (isSome_bannedIn?_ofList_iff htsingle).mp (hcomplete _ hbanned)
  exact ⟨entry', hentry', hopens.eq_of_word hvword⟩

theorem exists_length_lt (texts : List (List Char)) :
    ∃ n, ∀ text ∈ texts, (lowerText text).length < n := by
  induction texts with
  | nil => exact ⟨0, nofun⟩
  | cons text texts ih =>
    obtain ⟨n, hn⟩ := ih
    refine ⟨max n ((lowerText text).length + 1), List.forall_mem_cons.mpr ⟨by omega, ?_⟩⟩
    intro other hother
    have hless := hn other hother
    omega

/-- Spaces in front of a text stay in lower case. -/
theorem lowerText_spaces (n : Nat) (x y : List Char) :
    lowerText (x ++ (List.replicate (n + 1) ' ' ++ y)) =
      lowerText x ++ (List.replicate (n + 1) ' ' ++ lowerText y) := by
  have hspace : Untouched ' '.toNat := untouched_of_isBlank (by decide)
  have hends : EndsWords ' ' := by decide +kernel
  induction n generalizing x with
  | zero => exact lowerText_append hspace hends x y
  | succ n ih =>
    rw [List.replicate_succ, List.cons_append, lowerText_append hspace hends, List.cons_append]
    exact congrArg (fun z => lowerText x ++ ' ' :: z) (ih [])

/-- They separate words. -/
theorem words_spaces (n : Nat) (x y : List Char) :
    words (x ++ (List.replicate (n + 1) ' ' ++ y)) = words x ++ words y := by
  induction n generalizing x with
  | zero => exact words_append_blank (by decide) x y
  | succ n ih =>
    rw [List.replicate_succ, List.cons_append, words_append_blank (by decide)]
    exact congrArg (words x ++ ·) (ih [])

/-- A text with words that begins a word with spaces behind it holds the word only. -/
theorem words_of_prefix {x : List Char} {n : Nat} (hx : x ≠ []) (hne : w ≠ [])
    (hw : ∀ c ∈ w, isBlank c = false) (hbegins : x <+: w ++ List.replicate n ' ')
    (hwords : words x <+: w :: ws) : words x = [w] := by
  rcases List.prefix_or_prefix_of_prefix hbegins (List.prefix_append w _) with hxw | hwx
  · have hxwords := words_of_word hx fun c hc => hw c (hxw.subset hc)
    rw [hxwords] at hwords ⊢
    obtain ⟨more, hmore⟩ := hwords
    rw [(List.cons.inj hmore).1]
  · obtain ⟨z, rfl⟩ := hwx
    have hz : ∀ c ∈ z, isBlank c = true := by
      intro c hc
      rw [List.prefix_append_right_inj] at hbegins
      rw [List.eq_of_mem_replicate (hbegins.subset hc)]
      decide
    rw [words_append (.inr fun c hc => hz c (List.mem_of_head? hc)), words_of_word hne hw,
      words_of_blank hz, List.append_nil]

/-- If all that is banned is refused, the first word of an entry is the word of an entry: with
enough spaces behind it, a command is still banned, but it begins with no longer entry. -/
theorem exists_entry_of_words (hcomplete : ∀ command, Banned blocked command →
    (bannedIn? blocked command).isSome = true) (hentry : entry ∈ entries blocked)
    (hsingle : Single entry) (hwords : words (caseless entry) = w :: ws) :
    ∃ entry' ∈ entries blocked, Single entry' ∧ words (caseless entry') = [w] := by
  have hw := of_mem_words (s := caseless entry) (w := w) (by simp [hwords])
  rw [words_caseless, List.map_eq_cons_iff] at hwords
  obtain ⟨r, rs, hr, hrw, -⟩ := hwords
  obtain ⟨front, rest, rfl, -, hrest, hrs⟩ := exists_append_of_words hr
  rw [← map_unfinal_lowerText] at hrw
  have hvne : lowerText r ≠ [] := fun hnil => hw.1 (by rw [← hrw, hnil, List.map_nil])
  have hv := isBlank_of_map_unfinal (v := lowerText r) fun c hc => (hw.2 c (hrw ▸ hc)).2
  obtain ⟨n, hn⟩ := exists_length_lt (entries blocked)
  let t := r ++ (List.replicate (n + 1) ' ' ++ rest)
  have htsingle : Single t := by
    intro c hc
    rcases List.mem_append.mp hc with hc | hc
    · exact hsingle c (by simp [hc])
    · rcases List.mem_append.mp hc with hc | hc
      · rw [List.eq_of_mem_replicate hc]
        decide
      · exact hsingle c (by simp [hc])
  have htlower : lowerText t = lowerText r ++ (List.replicate (n + 1) ' ' ++ lowerText rest) :=
    lowerText_spaces n r rest
  have hbanned : Banned blocked (String.ofList t) := by
    have hrword : words r = [r] := words_of_mem (s := front ++ (r ++ rest)) (by simp [hr])
    have htwords : words t = r :: rs := by
      rw [words_spaces, hrword, hrs, List.singleton_append]
    refine banned_ofList htsingle hentry hsingle (by simp [hr]) ?_
    rw [words_caseless, words_caseless, hr, htwords]
  obtain ⟨entry', hentry', hopens⟩ :=
    (isSome_bannedIn?_ofList_iff htsingle).mp (hcomplete _ hbanned)
  have hwhole : lowerText entry' <+: lowerText t := by
    obtain ⟨-, more, hstrip, -⟩ := hopens
    rw [htlower] at hstrip ⊢
    exact (hstrip ▸ List.prefix_append _ more).trans (strip_prefix_of_word hvne hv _)
  have hbegins : lowerText entry' <+: lowerText r ++ List.replicate (n + 1) ' ' := by
    rw [htlower, ← List.append_assoc] at hwhole
    refine List.prefix_of_prefix_length_le hwhole (List.prefix_append _ _) ?_
    have hshort := hn entry' hentry'
    rw [List.length_append, List.length_replicate]
    omega
  have hword : words (lowerText entry') = [lowerText r] := by
    have hopen := hopens.words.2
    rw [htlower, words_spaces, words_of_word hvne hv] at hopen
    exact words_of_prefix hopens.1 hvne hv hbegins hopen
  refine ⟨entry', hentry', single_lowerText.mp fun c hc => ?_, ?_⟩
  · exact single_lowerText.mpr htsingle c (hwhole.subset hc)
  · rw [words_caseless_eq, hword, List.map_singleton, hrw]

/-- **A ban list is complete exactly if the first words of its entries are entries.** -/
theorem isSome_iff_banned_iff : (∀ command, (bannedIn? blocked command).isSome = true ↔
    Banned blocked command) ↔ FirstWordsListed blocked := by
  constructor
  · intro hcomplete entry hentry hsingle w ws hwords v hv
    obtain ⟨entry', hentry', hsingle', hword⟩ :=
      exists_entry_of_words (fun command => (hcomplete command).mpr) hentry hsingle hwords
    exact exists_entry_of_word (fun command => (hcomplete command).mpr) hentry' hsingle' hword hv
  · intro hlisted command
    exact ⟨banned_of_isSome, isSome_of_banned hlisted⟩

/-! ## Commands that grow -/

/-- A command grows by a segment, or by a blank where no word goes on; also in one of its segments.
-/
inductive Grows : List Char → List Char → Prop where
  | blank {space : Char} {x y : List Char} (single : Single (x ++ y)) (apart : Apart x y)
    (blank : isBlank space = true) (joins : separates space = false) :
      Grows (x ++ y) (x ++ space :: y)
  | front {sep : Char} (x s : List Char) (separates : separates sep = true) :
    Grows s (x ++ sep :: s)
  | back {sep : Char} (s x : List Char) (separates : separates sep = true) : Grows s (s ++ sep :: x)
  | behind {sep : Char} {s t : List Char} (x : List Char) (separates : separates sep = true)
    (grows : Grows s t) : Grows (x ++ sep :: s) (x ++ sep :: t)
  | before {sep : Char} {s t : List Char} (x : List Char) (separates : separates sep = true)
    (grows : Grows s t) : Grows (s ++ sep :: x) (t ++ sep :: x)
  | trans {s t u : List Char} (first : Grows s t) (second : Grows t u) : Grows s u

/-- **Each segment keeps its words when a command grows.** -/
theorem Grows.words {s t : List Char} (h : Grows s t) : ∀ segment ∈ s.splitOnP separates,
    ∃ segment' ∈ t.splitOnP separates, Text.words segment' = Text.words segment := by
  induction h with
  | blank hsingle happart hblank hjoins =>
    rename_i space x y
    intro segment hsegment
    have hsingle' : Single (x ++ space :: y) := by
      intro d hd
      rcases List.mem_append.mp hd with hx | hy
      · exact hsingle d (List.mem_append_left _ hx)
      · rcases List.mem_cons.mp hy with rfl | hy
        · exact hjoins
        · exact hsingle d (List.mem_append_right _ hy)
    rw [List.splitOnP_eq_singleton hsingle, List.mem_singleton] at hsegment
    refine ⟨x ++ space :: y, ?_, ?_⟩
    · rw [List.splitOnP_eq_singleton hsingle']
      exact List.mem_singleton_self _
    · rw [hsegment, words_append_blank hblank, words_append happart]
  | front x s hseparates =>
    intro segment hsegment
    refine ⟨segment, ?_, rfl⟩
    rw [List.splitOnP_append_cons x s hseparates]
    exact List.mem_append_right _ hsegment
  | back s x hseparates =>
    intro segment hsegment
    refine ⟨segment, ?_, rfl⟩
    rw [List.splitOnP_append_cons s x hseparates]
    exact List.mem_append_left _ hsegment
  | behind x hseparates hgrows ih =>
    intro segment hsegment
    rw [List.splitOnP_append_cons x _ hseparates] at hsegment ⊢
    rcases List.mem_append.mp hsegment with hfront | hgrown
    · exact ⟨segment, List.mem_append_left _ hfront, rfl⟩
    · obtain ⟨segment', hsegment', hwords⟩ := ih segment hgrown
      exact ⟨segment', List.mem_append_right _ hsegment', hwords⟩
  | before x hseparates hgrows ih =>
    intro segment hsegment
    rw [List.splitOnP_append_cons _ x hseparates] at hsegment ⊢
    rcases List.mem_append.mp hsegment with hgrown | hback
    · obtain ⟨segment', hsegment', hwords⟩ := ih segment hgrown
      exact ⟨segment', List.mem_append_left _ hsegment', hwords⟩
    · exact ⟨segment, List.mem_append_right _ hback, rfl⟩
  | trans hfirst hsecond ih ih' =>
    intro segment hsegment
    obtain ⟨segment', hsegment', hwords⟩ := ih segment hsegment
    obtain ⟨segment'', hsegment'', hwords'⟩ := ih' segment' hsegment'
    exact ⟨segment'', hsegment'', hwords'.trans hwords⟩

/-- **A banned command stays banned when it grows.** -/
theorem Banned.of_grows {command' : String} (h : Banned blocked command)
    (hgrows : Grows command.toList command'.toList) : Banned blocked command' := by
  obtain ⟨entry, hentry, hsingle, hne, segment, hsegment, hbegins⟩ := h
  obtain ⟨segment', hsegment', hwords⟩ := hgrows.words segment hsegment
  refine ⟨entry, hentry, hsingle, hne, segment', hsegment', ?_⟩
  rw [words_caseless segment', hwords, ← words_caseless]
  exact hbegins

/-- Words end at a separator, unless it is a backquote. -/
theorem endsWords_of_separates (h : separates c = true) (hquote : c ≠ Char.ofNat 96) :
    EndsWords c := by
  have hmarks : ∀ n ∈ [10, 59, 124, 38, 40, 41], EndsWords (Char.ofNat n) := by decide +kernel
  simp only [separates, Bool.or_eq_true, beq_iff_eq] at h
  rcases h with hother | rfl
  · have hmem : c.toNat ∈ [10, 59, 124, 38, 40, 41] := by
      rcases hother with ((((rfl | rfl) | rfl) | rfl) | rfl) | rfl <;> decide
    simpa using hmarks c.toNat hmem
  · exact absurd rfl hquote

/-- A longer list bans more. -/
theorem Banned.of_subset {blocked' : List String} (h : Banned blocked command)
    (hsubset : blocked ⊆ blocked') : Banned blocked' command := by
  obtain ⟨entry, hentry, hmore⟩ := h
  refine ⟨entry, ?_, hmore⟩
  obtain ⟨text, htext, rfl⟩ := List.mem_map.mp hentry
  rcases List.mem_append.mp htext with halways | hblocked
  · exact List.mem_map_of_mem (List.mem_append_left _ halways)
  · exact List.mem_map_of_mem (List.mem_append_right _ (hsubset hblocked))

/-- **A command is refused if one of its parts is**, where a separator other than a backquote stands
between them. -/
theorem isSome_bannedIn?_append (hseparates : separates c = true) (hquote : c ≠ Char.ofNat 96)
    (x y : List Char) : (bannedIn? blocked (String.ofList (x ++ c :: y))).isSome = true ↔
      (bannedIn? blocked (String.ofList x)).isSome = true ∨
        (bannedIn? blocked (String.ofList y)).isSome = true := by
  simp only [isSome_bannedIn?_iff, String.toList_ofList,
    lowerText_append (untouched_of_separates hseparates) (endsWords_of_separates hseparates hquote),
    List.splitOnP_append_cons _ _ hseparates, List.mem_append, or_and_right, exists_or]

/-! ## Runs -/

variable {settings : WorkbenchSettings} {call : Invocation} {request : Request}

/-- Nothing is banned in a command without words. -/
theorem bannedIn?_of_blank (h : isBlankText command = true) : bannedIn? blocked command = none := by
  refine Option.eq_none_iff_forall_ne_some.mpr fun banned hbanned => ?_
  obtain ⟨entry, -, -, hne, segment, hsegment, hbegins⟩ :=
    banned_of_isSome (Option.isSome_iff_exists.mpr ⟨banned, hbanned⟩)
  have hblank : ∀ c ∈ segment, isBlank c = true := fun c hc =>
    List.all_eq_true.mp h c (of_mem_splitOnP hsegment c hc).1
  rw [words_caseless, words_caseless, words_of_blank hblank, List.map_nil, List.prefix_nil,
    List.map_eq_nil_iff] at hbegins
  exact hne hbegins

/-- A run of a command with a banned text does nothing. -/
theorem run_of_bannedIn? {banned : String} (hparse : call.parameters? Request.shape = .ok request)
    (hbanned : bannedIn? settings.blockedCommands request.command = some banned) (canceled : Bool)
    (files : FileTree) :
    ∃ reason, run settings canceled call files = (.error (.denied name reason), files) := by
  have hblank : isBlankText request.command = false := by
    refine Bool.eq_false_iff.mpr fun h => ?_
    rw [bannedIn?_of_blank h] at hbanned
    cases hbanned
  simp only [run, hparse, hblank, Bool.false_eq_true, if_false, hbanned]
  exact ⟨_, rfl⟩

theorem denied_run_iff (hparse : call.parameters? Request.shape = .ok request) (canceled : Bool)
    (files : FileTree) : (run settings canceled call files).1.Denied ↔
      (bannedIn? settings.blockedCommands request.command).isSome = true := by
  cases hbanned : bannedIn? settings.blockedCommands request.command with
  | some banned =>
    obtain ⟨reason, hrun⟩ := run_of_bannedIn? hparse hbanned canceled files
    rw [hrun]
    exact iff_of_true ⟨name, reason, rfl⟩ rfl
  | none =>
    refine iff_of_false ?_ nofun
    simp only [run, hparse, hbanned]
    split_ifs
    · exact ToolOutcome.not_denied_ok _
    · rintro ⟨tool, reason, h⟩
      cases h
    · split
      · exact ToolOutcome.not_denied_execution _ _
      · exact ToolOutcome.not_denied_ok _

/-- The call that asks for a command. -/
def callOf (command : String) : Invocation := .ofObject name [("command", .string command)]

theorem shape_command (command : String) (room : Nat) (kept : Bool) :
    Request.shape ⟨room + 1, kept⟩ (Json.object [("command", .string command)]).document =
      some ⟨command, none⟩ := by
  simp [Request.shape, Document.record?_document, Document.cell?, Document.membersNamed,
    Record.orDefault?, Record.cell?]

theorem parameters?_callOf (command : String) :
    (callOf command).parameters? Request.shape = .ok ⟨command, none⟩ :=
  Invocation.parameters?_ofObject name (by simp [Json.Exact, Json.ExactMembers])
    (shape_command command 126 _)

/-- **A run is denied exactly if its command is banned, if and only if the first word of each entry
of the ban list is an entry by itself.** Whatever the list, only banned commands are denied, before
anything is done; a banned command stays banned when it grows; and a command is refused if one of
two parts is, where a separator other than a backquote stands between them. -/
theorem denied_iff_banned_iff (settings : WorkbenchSettings) :
    (∀ (canceled : Bool) (call : Invocation) (files : FileTree) (request : Request),
      call.parameters? Request.shape = .ok request → (run settings canceled call files).1.Denied →
        Banned settings.blockedCommands request.command ∧
          (run settings canceled call files).2 = files) ∧
    ((∀ (canceled : Bool) (call : Invocation) (files : FileTree) (request : Request),
      call.parameters? Request.shape = .ok request →
        ((run settings canceled call files).1.Denied ↔
          Banned settings.blockedCommands request.command)) ↔
      FirstWordsListed settings.blockedCommands) ∧
    (∀ command command' : String, Grows command.toList command'.toList →
      Banned settings.blockedCommands command → Banned settings.blockedCommands command') ∧
    ∀ (x y : List Char) (sep : Char), separates sep = true → sep ≠ Char.ofNat 96 →
      ((bannedIn? settings.blockedCommands (String.ofList (x ++ sep :: y))).isSome = true ↔
        (bannedIn? settings.blockedCommands (String.ofList x)).isSome = true ∨
          (bannedIn? settings.blockedCommands (String.ofList y)).isSome = true) := by
  refine ⟨fun canceled call files request hparse hdenied => ?_, ?_,
    fun command command' hgrows hbanned => hbanned.of_grows hgrows,
    fun x y sep hseparates hquote => isSome_bannedIn?_append hseparates hquote x y⟩
  · have hsome := (denied_run_iff hparse canceled files).mp hdenied
    obtain ⟨banned, hbanned⟩ := Option.isSome_iff_exists.mp hsome
    obtain ⟨reason, hrun⟩ := run_of_bannedIn? hparse hbanned canceled files
    exact ⟨banned_of_isSome hsome, by rw [hrun]⟩
  · rw [← isSome_iff_banned_iff]
    constructor
    · intro hruns command
      have hrun := hruns false (callOf command) (.empty 0) _ (parameters?_callOf command)
      rwa [denied_run_iff (parameters?_callOf command)] at hrun
    · intro hcomplete canceled call files request hparse
      rw [denied_run_iff hparse, hcomplete]

/-- A list whose first words have no sigma needs each of them once. -/
theorem firstWordsListed_of_head
    (h : ∀ entry ∈ entries blocked, ∀ w ∈ (words (caseless entry)).head?,
      (w.all fun c => !decide (IsSigma c)) = true ∧
        ∃ entry' ∈ entries blocked, lowerText entry' = w) :
    FirstWordsListed blocked := by
  intro entry hentry _ w ws hwords v hv
  obtain ⟨hall, entry', hentry', hlower⟩ := h entry hentry w (by rw [hwords]; rfl)
  have hsigma : ∀ c ∈ w, ¬IsSigma c := by simpa using hall
  have hvw : v = w := by
    refine eq_of_map_unfinal (hv.trans (List.map_id w).symm |>.trans ?_) hsigma
    exact List.map_congr_left fun c hc => (unfinal_of_not_isSigma (hsigma c hc)).symm
  exact ⟨entry', hentry', hlower.trans hvw.symm⟩

/-- The words that are missing in the list of what is always banned. -/
def missingWords : List String :=
  ["rm", "dd", "kill", "pkill", "killall", "apt", "apt-get", "yum", "brew", "pip", "npm", "gem"]

/-- A blank too many saves a banned command, unless the first words are banned as well. -/
theorem exists_banned_not_denied : ∃ (settings settings' : WorkbenchSettings) (files : FileTree),
    settings.blockedCommands = [] ∧ settings'.blockedCommands = missingWords ∧
    (run settings false (callOf "ls && rm -rf /") files).1.Denied ∧
    Banned [] "ls && rm  -rf /" ∧
    ¬(run settings false (callOf "ls && rm  -rf /") files).1.Denied ∧
    (run settings' false (callOf "ls && rm  -rf /") files).1.Denied := by
  let settings (blocked : List String) : WorkbenchSettings := ⟨Path.ofNames ["w"], none, blocked, 0⟩
  have hlists (blocked : List String) := denied_iff_banned_iff (settings blocked)
  have hdenied : (run (settings []) false (callOf "ls && rm -rf /") (.empty 0)).1.Denied :=
    (denied_run_iff (parameters?_callOf _) _ _).mpr (by decide +kernel)
  have happart : Apart " rm ".toList "-rf /".toList := by
    refine .inl fun c hc => ?_
    obtain rfl : ' ' = c := Option.some.inj hc
    rfl
  have hgrows : Grows "ls && rm -rf /".toList "ls && rm  -rf /".toList :=
    .behind "ls &".toList (by decide) (.blank (by decide) happart (by decide) (by decide))
  have hbanned : Banned [] "ls && rm  -rf /" :=
    (hlists []).2.2.1 _ _ hgrows ((hlists []).1 _ _ _ _ (parameters?_callOf _) hdenied).1
  refine ⟨settings [], settings missingWords, .empty 0, rfl, rfl, hdenied, hbanned, ?_, ?_⟩
  · rw [denied_run_iff (parameters?_callOf _)]
    decide +kernel
  · refine ((hlists missingWords).2.1.mpr ?_ _ _ _ _ (parameters?_callOf _)).mpr ?_
    · exact firstWordsListed_of_head (by decide +kernel)
    · exact hbanned.of_subset (List.nil_subset missingWords)

end AgentDesk.Terminal
