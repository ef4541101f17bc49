import AgentDesk.Proofs.Files
import AgentDesk.Proofs.Text.Occurrences
import AgentDesk.Proofs.Workbench.Requests
import AgentDesk.Workbench.Download
/-!
# What a download delivers

A successful reply with a text is answered with that text, up to a first limit for what is read and
a second one for what is shown. The first limit counts bytes before they are read as text, so that
it may cut a character in two; then there is no text and nothing is delivered. The second limit
falls between characters.

## Main definitions

* `Download.Fits` — the longest beginning of a text that takes at most so many bytes.
* `Download.Seamless` — a limit does not cut a character of a text in two.
* `Download.Shows`, `Download.Delivers` — what is shown of a text, and what an answer holds of it.
* `Download.readAll?`, `Download.boundary?` — the loops that read and that look for a boundary, with
  their subtractions checked.
-/

namespace AgentDesk.Download

variable {limit room n : Nat} {text front back content shown : String} {cs p : List Char}

/-! ## Beginnings of a text -/

/-- The longest beginning of a text that takes at most so many bytes. -/
structure Fits (limit : Nat) (text front : String) : Prop where
  begins : ∃ back, text = front ++ back
  size_le : front.utf8ByteSize ≤ limit
  longest : ∀ other back, text = other ++ back → other.utf8ByteSize ≤ limit →
    other.utf8ByteSize ≤ front.utf8ByteSize

/-- A text is not longer than a limit, or the limit falls between two of its characters. -/
def Seamless (limit : Nat) (text : String) : Prop :=
  text.utf8ByteSize ≤ limit ∨ ∃ front back, text = front ++ back ∧ front.utf8ByteSize = limit

theorem fitting_prefix (limit : Nat) (cs : List Char) : fitting limit cs <+: cs := by
  induction cs generalizing limit with
  | nil => simp [fitting]
  | cons c cs ih =>
    rw [fitting]
    split_ifs
    · exact (List.prefix_cons_inj c).mpr (ih _)
    · exact List.nil_prefix

theorem utf8Len_fitting_le (limit : Nat) (cs : List Char) :
    String.utf8Len (fitting limit cs) ≤ limit := by
  induction cs generalizing limit with
  | nil => simp [fitting]
  | cons c cs ih =>
    rw [fitting]
    split_ifs with hc
    · have hrest := ih (limit - c.utf8Size)
      rw [String.utf8Len_cons]
      omega
    · simp

/-- No beginning within the limit is longer. -/
theorem prefix_fitting (h : p <+: cs) (hp : String.utf8Len p ≤ limit) : p <+: fitting limit cs := by
  induction cs generalizing limit p with
  | nil => simpa [fitting] using h
  | cons c cs ih =>
    cases p with
    | nil => exact List.nil_prefix
    | cons d p =>
      obtain ⟨rfl, hrest⟩ := List.cons_prefix_cons.mp h
      rw [String.utf8Len_cons] at hp
      have hc : d.utf8Size ≤ limit := by omega
      rw [fitting, if_pos hc]
      exact (List.prefix_cons_inj d).mpr (ih hrest (by omega))

theorem exists_append_iff : (∃ back, text = front ++ back) ↔ front.toList <+: text.toList := by
  constructor
  · rintro ⟨back, rfl⟩
    exact ⟨back.toList, by simp⟩
  · rintro ⟨rest, hrest⟩
    refine ⟨String.ofList rest, ?_⟩
    rw [← String.toList_inj, String.toList_append, String.toList_ofList, hrest]

theorem utf8Len_toList (s : String) : String.utf8Len s.toList = s.utf8ByteSize := by
  rw [← String.utf8ByteSize_ofList, String.ofList_toList]

theorem fits_fitting (limit : Nat) (text : String) :
    Fits limit text (String.ofList (fitting limit text.toList)) where
  begins := exists_append_iff.mpr (by simpa using fitting_prefix limit text.toList)
  size_le := by
    rw [String.utf8ByteSize_ofList]
    exact utf8Len_fitting_le limit text.toList
  longest other back htext hother := by
    rw [← utf8Len_toList] at hother
    have hprefix := prefix_fitting (exists_append_iff.mp ⟨back, htext⟩) hother
    rw [← String.toList_ofList (l := fitting limit text.toList)] at hprefix
    obtain ⟨rest, hrest⟩ := exists_append_iff.mpr hprefix
    rw [hrest, String.utf8ByteSize_append]
    omega

/-- **There is only one longest beginning.** -/
theorem fits_iff : Fits limit text front ↔ front = String.ofList (fitting limit text.toList) := by
  constructor
  · intro h
    have hfits := fits_fitting limit text
    obtain ⟨back, hback⟩ := h.begins
    obtain ⟨back', hback'⟩ := hfits.begins
    have hle := h.longest _ back' hback' hfits.size_le
    have hsize := h.size_le
    rw [← utf8Len_toList] at hsize
    have hbegin := prefix_fitting (exists_append_iff.mp ⟨back, hback⟩) hsize
    -- Nothing is left behind the given beginning, for each character takes a byte.
    by_contra hne
    have hless := Text.utf8Len_lt_of_prefix hbegin fun heq => hne (by simp [← heq])
    rw [String.utf8ByteSize_ofList] at hle
    rw [utf8Len_toList] at hless
    omega
  · rintro rfl
    exact fits_fitting limit text

theorem Fits.of_le (h : text.utf8ByteSize ≤ limit) : Fits limit text text where
  begins := ⟨"", by simp⟩
  size_le := h
  longest other back htext _ := by
    rw [htext, String.utf8ByteSize_append]
    omega

theorem Fits.of_eq (htext : text = front ++ back) (hsize : front.utf8ByteSize = limit) :
    Fits limit text front where
  begins := ⟨back, htext⟩
  size_le := by omega
  longest other rest _ hother := by omega

/-! ## Looking for a boundary -/

/-- The boundary between characters that is found by going back from a place, byte by byte; none if
there is no byte left to go back. -/
def boundary? (content : String) : Nat → Option Nat
  | 0 => if String.Pos.Raw.isValid content ⟨0⟩ then some 0 else none
  | n + 1 => if String.Pos.Raw.isValid content ⟨n + 1⟩ then some (n + 1) else boundary? content n

theorem isValid_iff : String.Pos.Raw.isValid content ⟨n⟩ = true ↔
    ∃ front back, content = front ++ back ∧ front.utf8ByteSize = n := by
  rw [String.Pos.Raw.isValid_eq_true_iff, String.Pos.Raw.isValid_iff_exists_append]
  constructor
  · rintro ⟨front, back, hcontent, hplace⟩
    exact ⟨front, back, hcontent, congrArg String.Pos.Raw.byteIdx hplace.symm⟩
  · rintro ⟨front, back, hcontent, rfl⟩
    exact ⟨front, back, hcontent, rfl⟩

/-- **The search ends behind the last character that fits.** -/
theorem boundary?_eq (h : Fits limit content front) :
    boundary? content limit = some front.utf8ByteSize := by
  obtain ⟨back, hcontent⟩ := h.begins
  have hvalid : String.Pos.Raw.isValid content ⟨front.utf8ByteSize⟩ = true :=
    isValid_iff.mpr ⟨front, back, hcontent, rfl⟩
  have hbetween (n : Nat) (hfront : front.utf8ByteSize < n) (hn : n ≤ limit) :
      String.Pos.Raw.isValid content ⟨n⟩ = false := by
    rw [← Bool.not_eq_true, isValid_iff]
    rintro ⟨other, rest, hother, rfl⟩
    have hle := h.longest other rest hother hn
    omega
  -- From every place up to the limit that is not in front of the boundary, the search ends there.
  have hsearch (n : Nat) (hn : n ≤ limit) (hfront : front.utf8ByteSize ≤ n) :
      boundary? content n = some front.utf8ByteSize := by
    induction n with
    | zero =>
      have hzero : front.utf8ByteSize = 0 := by omega
      simp [boundary?, hzero]
    | succ n ih =>
      by_cases hplace : front.utf8ByteSize = n + 1
      · rw [hplace] at hvalid ⊢
        simp [boundary?, hvalid]
      · have hback := hbetween (n + 1) (by omega) hn
        simp [boundary?, hback, ih (by omega) (by omega)]
  exact hsearch limit le_rfl h.size_le

/-! ## What is shown -/

/-- What stands behind a text that is cut off. -/
def notice : String := "\n\n[Content truncated to 256000 bytes]"

/-- A text is shown as it is, or as the longest beginning that may be shown, with a notice. -/
def Shows (content shown : String) : Prop :=
  (content.utf8ByteSize ≤ sizeLimit → shown = content) ∧
  (sizeLimit < content.utf8ByteSize → ∃ front, Fits sizeLimit content front ∧
    shown = front ++ notice)

theorem shows_cut (content : String) : Shows content (cut content) := by
  constructor
  · intro h
    rw [cut, if_neg (by omega)]
  · intro h
    refine ⟨_, fits_fitting sizeLimit content, ?_⟩
    rw [cut, if_pos h, String.append_assoc]
    rfl

theorem Shows.unique {other : String} (h : Shows content shown) (h' : Shows content other) :
    shown = other := by
  by_cases hlong : sizeLimit < content.utf8ByteSize
  · obtain ⟨front, hfits, rfl⟩ := h.2 hlong
    obtain ⟨front', hfits', rfl⟩ := h'.2 hlong
    rw [fits_iff.mp hfits, fits_iff.mp hfits']
  · rw [h.1 (by omega), h'.1 (by omega)]

/-! ## What is read -/

/-- What is read of a body when its chunks come behind what was read before, the room being what is
left of the limit, and whether the room was filled; none if more was read than the limit, so that
nothing is left to compute the room from. -/
def readAll? (limit : Nat) (read : ByteArray) : List ByteArray → Option (ByteArray × Bool)
  | [] => some (read, false)
  | chunk :: rest =>
    if limit < read.size then none
    else if chunk.size ≥ limit - read.size then
      some (read ++ chunk.extract 0 (limit - read.size), true)
    else readAll? limit (read ++ chunk) rest

/-- **There is always room to compute.** -/
theorem readAll?_eq (chunks : List ByteArray) {read : ByteArray} (h : read.size < limit) :
    readAll? limit read chunks = some (read ++ (readUpTo (limit - read.size) chunks).1,
      (readUpTo (limit - read.size) chunks).2) := by
  induction chunks generalizing read with
  | nil => simp [readAll?, readUpTo]
  | cons chunk chunks ih =>
    have hroom : ¬limit < read.size := by omega
    rw [readAll?, readUpTo, if_neg hroom]
    split_ifs with hfull
    · rfl
    · have hmore : (read ++ chunk).size < limit := by
        rw [ByteArray.size_append]
        omega
      have hleft : limit - (read ++ chunk).size = limit - read.size - chunk.size := by
        rw [ByteArray.size_append]
        omega
      rw [ih hmore, hleft]
      simp [ByteArray.append_assoc]

theorem foldl_append (read : ByteArray) (chunks : List ByteArray) :
    chunks.foldl (· ++ ·) read = read ++ chunks.foldl (· ++ ·) ByteArray.empty := by
  induction chunks generalizing read with
  | nil => simp
  | cons chunk chunks ih =>
    rw [List.foldl_cons, List.foldl_cons, ih, ih (ByteArray.empty ++ chunk)]
    simp [ByteArray.append_assoc]

theorem extract_of_le {bytes : ByteArray} (h : bytes.size ≤ room) :
    bytes.extract 0 room = bytes := by
  have hmax := ByteArray.extract_zero_max_size (a := bytes) (i := room)
  rwa [max_eq_left h] at hmax

/-- **What is read is the beginning of the body**, however it is cut into chunks. -/
theorem readUpTo_eq (chunks : List ByteArray) (room : Nat) :
    (readUpTo room chunks).1 = (chunks.foldl (· ++ ·) ByteArray.empty).extract 0 room := by
  induction chunks generalizing room with
  | nil => exact (extract_of_le (Nat.zero_le room)).symm
  | cons chunk chunks ih =>
    rw [readUpTo, List.foldl_cons, foldl_append, ByteArray.empty_append, ByteArray.extract_append]
    split_ifs with hfull
    · have hnone : room - chunk.size = 0 := by omega
      simp [hnone]
    · have hall : chunk.extract 0 room = chunk := extract_of_le (by omega)
      simp [hall, ih]

/-! ## What is delivered -/

/-- What is read of a text is its longest beginning, if the limit does not cut a character in two.
-/
theorem Seamless.exists_fromUTF8? (h : Seamless limit text) : ∃ kept, Fits limit text kept ∧
    String.fromUTF8? (text.toUTF8.extract 0 limit) = some kept := by
  rcases h with hsize | ⟨front, back, rfl, hsize⟩
  · have hall : text.toUTF8.extract 0 limit = text.toUTF8 := extract_of_le hsize
    exact ⟨text, .of_le hsize, FileTree.fromUTF8?_eq_some_iff.mpr hall⟩
  · have hfront : (front ++ back).toUTF8.extract 0 limit = front.toUTF8 := by
      rw [String.toUTF8, String.toByteArray_append]
      exact ByteArray.extract_append_eq_left hsize.symm
    exact ⟨front, .of_eq rfl hsize, FileTree.fromUTF8?_eq_some_iff.mpr hfront⟩

/-- Otherwise it is no text. -/
theorem fromUTF8?_of_not_seamless (h : ¬Seamless limit text) :
    String.fromUTF8? (text.toUTF8.extract 0 limit) = none := by
  refine Option.eq_none_iff_forall_ne_some.mpr fun kept hkept => h ?_
  rw [FileTree.fromUTF8?_eq_some_iff] at hkept
  by_cases hsize : text.utf8ByteSize ≤ limit
  · exact .inl hsize
  · have hvalid : String.Pos.Raw.IsValid text ⟨limit⟩ := by
      refine String.Pos.Raw.isValid_iff_isValidUTF8_extract_zero.mpr ⟨?_, ?_⟩
      · rw [String.Pos.Raw.le_iff]
        exact (Nat.lt_of_not_le hsize).le
      · exact hkept ▸ kept.isValidUTF8
    exact .inr (isValid_iff.mp (String.Pos.Raw.isValid_eq_true_iff.mpr hvalid))

/-- A text in a format. -/
def Format.apply : Format → String → String
  | .tidied, text => tidy text
  | .raw, text => text

/-- An answer delivers a text: it reports no failure, and it shows what is read of the text, in the
format that was asked for. -/
structure Delivers (format : Format) (text : String) (r : ToolResponse) : Prop where
  succeeded : r.isError = false
  shows : ∃ kept, Fits readLimit text kept ∧ Shows (format.apply kept) r.content

/-- The text and the format fix what is shown, whatever the chunks were. -/
theorem Delivers.unique {format : Format} {r r' : ToolResponse} (h : Delivers format text r)
    (h' : Delivers format text r') : r.content = r'.content := by
  obtain ⟨kept, hfits, hshows⟩ := h.shows
  obtain ⟨kept', hfits', hshows'⟩ := h'.shows
  rw [fits_iff.mp hfits] at hshows
  rw [fits_iff.mp hfits'] at hshows'
  exact hshows.unique hshows'

/-- The answer to bytes that are no text. -/
def noText : ToolOutcome := .ok (.error "Response content is not valid UTF-8")

variable {call : Invocation} {request : Request} {net : Network} {reply : HttpReply}
  {rest : List HttpReply} {format : Format} {url : String}

theorem answer_eq (hsuccess : reply.isSuccess = true) (hcomplete : reply.complete = true) :
    answer url format reply =
      match String.fromUTF8? (reply.body.extract 0 readLimit) with
      | none => noText
      | some kept => .ok <| (ToolResponse.text (cut (format.apply kept))).withMetadata <| .object
          [("url", .string url), ("status", .nat reply.status),
            ("content_type", .string (contentType reply)),
            ("bytes", .nat (format.apply kept).utf8ByteSize)] := by
  have hread : (readUpTo readLimit reply.chunks).1 = reply.body.extract 0 readLimit :=
    readUpTo_eq reply.chunks readLimit
  simp only [answer, hread, hsuccess, hcomplete, Bool.not_true, Bool.false_and, Bool.false_eq_true,
    if_false]
  cases String.fromUTF8? (reply.body.extract 0 readLimit) with
  | none => rfl
  | some kept => cases format <;> rfl

theorem answer_of_seamless (hsuccess : reply.isSuccess = true) (hcomplete : reply.complete = true)
    (hbody : reply.body = text.toUTF8) (h : Seamless readLimit text) :
    ∃ r, answer url format reply = .ok r ∧ Delivers format text r := by
  obtain ⟨kept, hfits, hkept⟩ := h.exists_fromUTF8?
  rw [answer_eq hsuccess hcomplete, hbody, hkept]
  exact ⟨_, rfl, rfl, kept, hfits, shows_cut _⟩

theorem answer_of_not_seamless (hsuccess : reply.isSuccess = true)
    (hcomplete : reply.complete = true)
    (hbody : reply.body = text.toUTF8) (h : ¬Seamless readLimit text) :
    answer url format reply = noText := by
  rw [answer_eq hsuccess hcomplete, hbody, fromUTF8?_of_not_seamless h]

/-- A run that may ask for an address answers for the reply that it gets. -/
theorem run_eq (hcall : call.parameters? Request.shape = .ok request)
    (hformat : Format.parse? request.format = some format) (hurl : isWebAddress request.url = true)
    (hnet : net.replies = reply :: rest) :
    (run false call net).1 = answer request.url format reply := by
  have hnamed : request.url.isEmpty = false := by
    rw [← Bool.not_eq_true, String.isEmpty_iff]
    intro hempty
    rw [hempty] at hurl
    exact absurd hurl (by decide)
  have hgiven : request.format.isEmpty = false := by
    rw [← Bool.not_eq_true, String.isEmpty_iff]
    intro hempty
    have hnone : Format.parse? "" = none := by decide
    rw [hempty, hnone] at hformat
    cases hformat
  simp [run, hcall, hnamed, hgiven, hformat, hurl, Network.send, hnet]

/-- **A text is delivered unless the limit for what is read cuts one of its characters in two.**
Then the answer is that there is no text. Whatever the chunks are, there is room to compute, and the
search for the place where a shown text is cut off ends. -/
theorem delivered_iff (hcall : call.parameters? Request.shape = .ok request)
    (hformat : Format.parse? request.format = some format) (hurl : isWebAddress request.url = true)
    (hnet : net.replies = reply :: rest) (hsuccess : reply.isSuccess = true)
    (hcomplete : reply.complete = true) (hbody : reply.body = text.toUTF8) :
    ((∃ r, (run false call net).1 = .ok r ∧ Delivers format text r) ↔ Seamless readLimit text) ∧
    (¬Seamless readLimit text → (run false call net).1 = noText) ∧
    readAll? readLimit ByteArray.empty reply.chunks = some (readUpTo readLimit reply.chunks) ∧
    ∀ content, sizeLimit < content.utf8ByteSize → ∃ front,
      boundary? content sizeLimit = some front.utf8ByteSize ∧ Fits sizeLimit content front ∧
        cut content = front ++ notice := by
  rw [run_eq hcall hformat hurl hnet]
  refine ⟨⟨?_, answer_of_seamless hsuccess hcomplete hbody⟩,
    answer_of_not_seamless hsuccess hcomplete hbody, ?_, ?_⟩
  · rintro ⟨r, hr, hdelivers⟩
    by_contra hcase
    rw [answer_of_not_seamless hsuccess hcomplete hbody hcase] at hr
    cases hr
    exact absurd hdelivers.succeeded (by simp [ToolResponse.error])
  · have hempty : ByteArray.empty.size < readLimit := by decide
    rw [readAll?_eq reply.chunks hempty]
    simp
  · intro content hlong
    obtain ⟨front, hfits, hcut⟩ := (shows_cut content).2 hlong
    exact ⟨front, boundary?_eq hfits, hfits, hcut⟩

/-! ## A text that is not delivered -/

/-- A request for an address as it is, as the members of an object. -/
def rawMembers (url : String) : List (String × Json) :=
  [("url", .string url), ("format", .string "raw")]

/-- The call that asks for an address as it is. -/
def rawCall (url : String) : Invocation := .ofObject name (rawMembers url)

theorem shape_rawMembers (url : String) (room : Nat) {kept : Bool} :
    Request.shape ⟨room + 1, kept⟩ (Json.object (rawMembers url)).document =
      some ⟨url, "raw", none⟩ := by
  simp [rawMembers, Request.shape, Document.record?_document, Document.cell?, Document.membersNamed,
    Record.orDefault?, Record.cell?]

theorem parameters?_rawCall (url : String) :
    (rawCall url).parameters? Request.shape = .ok ⟨url, "raw", none⟩ :=
  Invocation.parameters?_ofObject name (by simp [rawMembers, Json.Exact, Json.ExactMembers])
    (shape_rawMembers url 126)

/-- A successful reply with a text in one chunk. -/
def pageOf (text : String) : HttpReply := ⟨200, [], [text.toUTF8], true⟩

/-- A text that ends in a character of two bytes behind characters of one. -/
def accented (n : Nat) : String := String.ofList (List.replicate n 'e' ++ ['é'])

theorem utf8Len_replicate (n : Nat) : String.utf8Len (List.replicate n 'e') = n := by
  induction n with
  | zero => rfl
  | succ n ih =>
    rw [List.replicate_succ, String.utf8Len_cons, ih]
    rfl

/-- A limit behind the first byte of its last character is no limit of such a text. -/
theorem not_seamless_accented (n : Nat) : ¬Seamless (n + 1) (accented n) := by
  have hall : String.utf8Len (List.replicate n 'e' ++ ['é']) = n + 2 := by
    rw [String.utf8Len_append, utf8Len_replicate]
    rfl
  rintro (hsize | ⟨front, back, htext, hsize⟩)
  · rw [accented, String.utf8ByteSize_ofList, hall] at hsize
    omega
  · have hprefix := exists_append_iff.mp ⟨back, htext⟩
    rw [accented, String.toList_ofList, List.prefix_concat_iff] at hprefix
    rw [← utf8Len_toList] at hsize
    rcases hprefix with heq | hprefix
    · rw [heq, hall] at hsize
      omega
    · obtain ⟨more, hmore⟩ := hprefix
      have hlength := utf8Len_replicate n
      rw [← hmore, String.utf8Len_append] at hlength
      omega

theorem body_pageOf (text : String) : (pageOf text).body = text.toUTF8 := by
  simp [HttpReply.body, pageOf]

/-- A short text is delivered. One that takes one byte more than the limit, and has two bytes for
its last character, is not. -/
theorem exists_text_not_delivered :
    (∃ r, (run false (rawCall "http://h/") ⟨[pageOf "é"], []⟩).1 = .ok r ∧ Delivers .raw "é" r) ∧
    (¬∃ r, (run false (rawCall "http://h/") ⟨[pageOf (accented 5242879)], []⟩).1 = .ok r ∧
      Delivers .raw (accented 5242879) r) ∧
    (run false (rawCall "http://h/") ⟨[pageOf (accented 5242879)], []⟩).1 = noText := by
  have hraw : Format.parse? "raw" = some .raw := by decide
  have hurl : isWebAddress "http://h/" = true := by decide
  have hnet (text : String) : (Network.mk [pageOf text] []).replies = [pageOf text] := rfl
  have hpage (text : String) :=
    delivered_iff (parameters?_rawCall "http://h/") hraw hurl (hnet text)
    rfl rfl (body_pageOf text)
  have hcut : ¬Seamless readLimit (accented 5242879) := not_seamless_accented 5242879
  exact ⟨(hpage "é").1.mpr (.inl (by decide)), fun h => hcut ((hpage _).1.mp h), (hpage _).2.1 hcut⟩

end AgentDesk.Download
