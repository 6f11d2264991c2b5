import ModuleDepot.Proofs.Basic
import ModuleDepot.Proofs.Url.Opening

/-! # Hosts without blanks

A blank or a control in a text stays where it is on the whole way from the text to the labels of a
domain: it spells no byte behind a percent sign (`mem_decodeBytes`), it is mapped to itself and not
composed with anything (`mem_composed`), and in a label that spells another it is no digit
(`mem_of_decode?`). No label may hold it in the end, so that no host ends in one
(`isEdge_eq_false_of_readHost`).
-/

namespace ModuleDepot

open Url (isEdge isEdge_iff ne_of_isEdge)

/-- Blanks and controls come before every other character. -/
theorem Url.not_le_of_isEdge {c d : Char} (hc : isEdge c = true) (hd : isEdge d = false) :
    ¬ d ≤ c := by
  have hc : c.toNat ≤ 0x20 := isEdge_iff.mp hc
  have hd : ¬ d.toNat ≤ 0x20 := by simp [← isEdge_iff, hd]
  intro hle
  have : d.toNat ≤ c.toNat := Char.le_def.mp hle
  omega

namespace Text

theorem digitValue?_of_isEdge {c : Char} (h : isEdge c = true) (base : Nat) :
    digitValue? base c = none := by
  have hnot : ∀ {d : Char}, isEdge d = false → ¬ d ≤ c := Url.not_le_of_isEdge h
  simp [digitValue?, hnot (show isEdge '0' = false from rfl),
    hnot (show isEdge 'a' = false from rfl), hnot (show isEdge 'A' = false from rfl)]

/-! ## Bytes -/

theorem utf8_eq (s : String) : utf8 s = s.toList.flatMap String.utf8EncodeChar := by
  rw [utf8, String.toUTF8_eq_toByteArray, ← String.utf8Encode_toList, List.utf8Encode,
    List.data_toByteArray]

/-- A byte of ASCII is a character of its own, and part of no other. -/
theorem mem_utf8EncodeChar {b : UInt8} (hb : b.toNat < 0x80) {c : Char} :
    b ∈ String.utf8EncodeChar c ↔ b.toNat = c.toNat := by
  have hbyte : ∀ n, b = UInt8.ofNat n ↔ b.toNat = n % 256 := fun n => by
    rw [← UInt8.toNat_inj, UInt8.toNat_ofNat']
  have hcode : c.toNat = c.val.toNat := rfl
  rw [hcode] at *
  unfold String.utf8EncodeChar
  dsimp only
  split
  next => simp only [List.mem_singleton, hbyte]; omega
  split
  next => simp only [List.mem_cons, List.not_mem_nil, or_false, hbyte]; omega
  split
  next => simp only [List.mem_cons, List.not_mem_nil, or_false, hbyte]; omega
  next => simp only [List.mem_cons, List.not_mem_nil, or_false, hbyte]; omega

/-- A byte of ASCII is among the bytes of a text if its character is in the text. -/
theorem mem_utf8 {b : UInt8} (hb : b.toNat < 0x80) {s : String} :
    b ∈ utf8 s ↔ ∃ c ∈ s.toList, b.toNat = c.toNat := by
  simp only [utf8_eq, List.mem_flatMap, mem_utf8EncodeChar hb]

/-- What is read of bytes is the text that has them. -/
theorem eq_utf8_of_readUtf8 {bytes : List UInt8} {s : String} (h : readUtf8 bytes = .ok s) :
    bytes = utf8 s := by
  unfold readUtf8 at h
  split at h
  next t ht =>
    cases h
    unfold String.fromUTF8? at ht
    split at ht
    next => cases ht; rfl
    next => cases ht
  next => cases h

/-! ## Composed texts -/

/-- A code point behind the edges: what a domain is composed of. -/
def isInner (n : Nat) : Bool := !isEdge (Char.ofNat n)

/-- Whether no edge takes part in what a run composes. -/
def CharMap.Run.keepsEdges (r : CharMap.Run) : Bool :=
  (List.range' r.first (r.last + 1 - r.first)).all fun n => isInner n && (r.image n).all isInner

/-- What such a run composes has no blank and no control, nor is it one. -/
theorem CharMap.Run.isEdge_of_mem_pairs {r : CharMap.Run} (h : r.keepsEdges = true)
    {p : Char × Char × Char} (hp : p ∈ r.pairs) :
    isEdge p.1 = false ∧ isEdge p.2.1 = false ∧ isEdge p.2.2 = false := by
  obtain ⟨n, hn, hp⟩ := List.mem_filterMap.mp hp
  have hinner := List.all_eq_true.mp h n hn
  rw [Bool.and_eq_true] at hinner
  obtain ⟨hn, himage⟩ := hinner
  split at hp
  next a b hab =>
    cases hp
    rw [hab] at himage
    simpa [isInner] using And.intro hn himage
  next => cases hp

/-- The runs of a row are known from its characters. -/
theorem keepsEdges_ofList {text : List Char}
    (h : (((text.splitOnP Char.isWhitespace).filter (!·.isEmpty)).map CharMap.Run.ofEntry).all
      (·.keepsEdges) = true) :
    ∀ r ∈ CharMap.ofText (String.ofList text), r.keepsEdges = true := by
  rw [CharMap.ofText, String.toList_ofList]
  exact List.all_eq_true.mp h

theorem keepsEdges_of_mem_pairRows :
    ∀ row ∈ pairRows, ∀ r ∈ CharMap.ofText row, r.keepsEdges = true := by
  unfold pairRows
  -- Row by row, as the kernel would take long to find the characters of a text by itself.
  repeat' refine List.forall_mem_cons.mpr ⟨keepsEdges_ofList (by decide +kernel), ?_⟩
  exact List.forall_mem_nil _

/-- No blank and no control is composed, or is part of what is composed. -/
theorem isEdge_of_mem_pairs {p : Char × Char × Char} (h : p ∈ pairs) :
    isEdge p.1 = false ∧ isEdge p.2.1 = false ∧ isEdge p.2.2 = false := by
  obtain ⟨row, hrow, hp⟩ := List.mem_flatMap.mp h
  obtain ⟨r, hr, hp⟩ := List.mem_flatMap.mp hp
  exact CharMap.Run.isEdge_of_mem_pairs (keepsEdges_of_mem_pairRows row hrow r hr) hp

theorem splitSyllable?_of_isEdge {c : Char} (h : isEdge c = true) : splitSyllable? c = none := by
  have h : c.toNat ≤ 0x20 := isEdge_iff.mp h
  rw [splitSyllable?, if_pos (.inl (by omega))]

theorem joinSyllable?_eq_some {a b c : Char} (h : joinSyllable? a b = some c) :
    isEdge a = false ∧ isEdge b = false := by
  have hinner : ∀ c : Char, 0x20 < c.toNat → isEdge c = false := fun c hc => by
    simpa [isEdge] using hc
  unfold joinSyllable? at h
  dsimp only at h
  split at h
  next h' => exact ⟨hinner a (by omega), hinner b (by omega)⟩
  split at h
  next h' => exact ⟨hinner a (by omega), hinner b (by omega)⟩
  next => cases h

/-- A blank or a control does not come apart. -/
theorem split?_of_isEdge {c : Char} (h : isEdge c = true) : split? c = none := by
  have hnone : pairs.lookup c = none := by
    rw [List.lookup_eq_none_iff]
    intro p hp
    rw [bne_iff_ne]
    exact ne_of_isEdge h (isEdge_of_mem_pairs hp).1
  rw [split?, hnone, splitSyllable?_of_isEdge h, Option.or_none]

theorem parts_of_isEdge {c : Char} (h : isEdge c = true) (times : Nat) : parts times c = [c] := by
  cases times with
  | zero => rfl
  | succ times => rw [parts, split?_of_isEdge h, Option.map_none, Option.getD_none]

theorem mem_place {c d : Char} {cs : List Char} : c ∈ place d cs ↔ c = d ∨ c ∈ cs := by
  induction cs with
  | nil => simp [place]
  | cons first rest ih =>
      rw [place]
      split
      next => rw [List.mem_cons, ih, List.mem_cons, or_left_comm]
      next => rw [List.mem_cons]

theorem mem_decomposed {c : Char} (h : isEdge c = true) {cs : List Char} (hc : c ∈ cs) :
    c ∈ decomposed cs := by
  have hplaced : ∀ l : List Char, c ∈ l → c ∈ l.foldr place [] := by
    intro l hl
    induction l with
    | nil => cases hl
    | cons d l ih =>
      exact mem_place.mpr ((List.mem_cons.mp hl).imp_right ih)
  exact hplaced _ (List.mem_flatMap.mpr ⟨c, hc, by simp [parts_of_isEdge h]⟩)

/-- What is composed has no blank or control in it. -/
theorem join?_eq_some {a b c : Char} (h : join? a b = some c) :
    isEdge a = false ∧ isEdge b = false := by
  rw [join?, Option.or_eq_some_iff, Option.map_eq_some_iff] at h
  rcases h with ⟨p, hfind, -⟩ | ⟨-, h⟩
  · have hp := List.find?_some hfind
    have hedge := isEdge_of_mem_pairs (List.mem_of_find?_eq_some hfind)
    simp only [Bool.and_eq_true, beq_iff_eq] at hp
    exact ⟨hp.1 ▸ hedge.2.1, hp.2 ▸ hedge.2.2⟩
  · exact joinSyllable?_eq_some h

/-- What is composed with a base takes neither the base nor anything else that is a blank or a
control. -/
theorem mem_composeFrom {c : Char} (h : isEdge c = true) {base : Char} {marks cs : List Char}
    (hc : c = base ∨ c ∈ marks ∨ c ∈ cs) : c ∈ composeFrom base marks cs := by
  induction cs generalizing base marks with
  | nil => simpa [composeFrom] using hc
  | cons d rest ih =>
      rw [composeFrom]
      split
      next composite hjoin =>
        split at hjoin
        next =>
          obtain ⟨hbase, hd⟩ := join?_eq_some hjoin
          refine ih (.inr ?_)
          rw [List.mem_cons] at hc
          exact (hc.resolve_left (ne_of_isEdge h hbase)).imp_right
            (Or.resolve_left · (ne_of_isEdge h hd))
        next => cases hjoin
      next =>
        split
        next =>
          rw [List.cons_append, List.mem_cons, List.mem_append, List.mem_reverse]
          exact hc.imp_right (Or.imp_right fun hc => ih ((List.mem_cons.mp hc).imp_right .inr))
        next =>
          refine ih ?_
          rw [List.mem_cons] at hc ⊢
          tauto

theorem mem_recomposed {c : Char} (h : isEdge c = true) {cs : List Char} (hc : c ∈ cs) :
    c ∈ recomposed cs := by
  induction cs with
  | nil => cases hc
  | cons first rest ih =>
      rw [recomposed]
      split
      next => exact mem_composeFrom h ((List.mem_cons.mp hc).imp_right .inr)
      next =>
        exact List.mem_cons.mpr ((List.mem_cons.mp hc).imp_right ih)

/-- **A blank or a control stays when a text is composed.** -/
theorem mem_composed {c : Char} (h : isEdge c = true) {cs : List Char} (hc : c ∈ cs) :
    c ∈ composed cs := by
  unfold composed
  split
  next => exact hc
  next => exact mem_recomposed h (mem_decomposed h hc)

end Text

namespace Url

/-! ## Spelled bytes and labels -/

/-- A byte that takes no part in the spelling of others is left when they are read. -/
theorem mem_decodeBytes {b : UInt8} (hsign : b ≠ 0x25) (hdigit : hexValue? b = none)
    {bytes : List UInt8} (hb : b ∈ bytes) : b ∈ decodeBytes bytes := by
  fun_induction decodeBytes bytes with
  | case1 first h l rest hfirst high low hlow hhigh ih =>
      have hfirst : b ≠ first := fun heq => hsign (heq.trans (eq_of_beq hfirst))
      have hh : b ≠ h := by rintro rfl; cases hdigit.symm.trans hhigh
      have hl : b ≠ l := by rintro rfl; cases hdigit.symm.trans hlow
      simp only [List.mem_cons, hfirst, hh, hl, false_or] at hb
      exact List.mem_cons_of_mem _ (ih hb)
  | case2 first h l rest _ _ ih =>
      exact List.mem_cons.mpr ((List.mem_cons.mp hb).imp_right ih)
  | case3 first h l rest _ ih =>
      exact List.mem_cons.mpr ((List.mem_cons.mp hb).imp_right ih)
  | case4 => exact hb

namespace Punycode

theorem digitValue?_of_isEdge {c : Char} (h : isEdge c = true) : digitValue? c = none := by
  unfold digitValue?
  rw [if_neg (not_le_of_isEdge h rfl ·.1), if_neg (not_le_of_isEdge h rfl ·.1),
    if_neg (not_le_of_isEdge h rfl ·.1)]

/-- A number takes digits alone from a spelling. -/
theorem mem_of_decodeNumber {c : Char} (hc : digitValue? c = none) {bias k weight i j : Nat}
    {spelling rest : List Char} (h : decodeNumber bias k weight i spelling = some (j, rest))
    (hmem : c ∈ spelling) : c ∈ rest := by
  induction spelling generalizing k weight i with
  | nil => cases hmem
  | cons d spelling ih =>
      have hstay : digitValue? d ≠ none → c ∈ spelling := fun hd =>
        (List.mem_cons.mp hmem).resolve_left fun heq => hd (heq ▸ hc)
      rw [decodeNumber] at h
      split at h
      next => cases h
      next value hvalue =>
        have hmem := hstay (by simp [hvalue])
        dsimp only at h
        split at h
        next => cases h
        split at h
        next => cases h; exact hmem
        split at h
        next => cases h
        next => exact ih h hmem

/-- Nothing but digits is read as differences, and what was placed before stays. -/
theorem mem_of_decodeCodes {c : Char} (hc : digitValue? c = none) {fuel n i bias : Nat}
    {label spelling read : List Char}
    (h : decodeCodes fuel n i bias label spelling = some read) (hmem : c ∈ label ∨ c ∈ spelling) :
    c ∈ read := by
  induction fuel generalizing n i bias label spelling with
  | zero => cases h
  | succ fuel ih =>
      cases spelling with
      | nil =>
          cases h
          exact hmem.resolve_right List.not_mem_nil
      | cons d spelling =>
          simp only [decodeCodes] at h
          split at h
          next => cases h
          next j rest hread =>
            split at h
            next =>
              refine ih h (hmem.imp (fun hlabel => ?_) (mem_of_decodeNumber hc hread))
              rw [← List.take_append_drop (j % (label.length + 1)) label] at hlabel
              rw [List.mem_append] at hlabel ⊢
              exact hlabel.imp_right (List.mem_cons_of_mem _)
            next => cases h

/-- A spelling without its last hyphen is what stands before and behind it. -/
theorem mem_around_hyphen {c : Char} (hhyphen : c ≠ '-') {spelling : List Char} (h : c ∈ spelling) :
    let behind := (spelling.reverse.takeWhile (· != '-')).reverse
    c ∈ spelling.take (spelling.length - behind.length - 1) ∨ c ∈ behind := by
  have hsplit := List.takeWhile_append_dropWhile (p := (· != '-')) (l := spelling.reverse)
  have hfirst := List.head?_dropWhile_not (· != '-') spelling.reverse
  generalize spelling.reverse.takeWhile (· != '-') = behind at *
  generalize spelling.reverse.dropWhile (· != '-') = before at *
  obtain rfl : spelling = before.reverse ++ behind.reverse := by
    rw [← List.reverse_append, hsplit, List.reverse_reverse]
  dsimp only
  cases before with
  | nil => exact .inr h
  | cons hyphen before =>
      obtain rfl : hyphen = '-' := by simpa using hfirst
      refine (List.mem_append.mp h).imp_left fun h => ?_
      have htake : (('-' :: before).reverse ++ behind.reverse).length - behind.reverse.length - 1 =
          before.reverse.length := by
        simp only [List.length_append, List.length_reverse, List.length_cons]
        omega
      rw [htake, List.reverse_cons, List.append_assoc, List.take_left]
      simpa [hhyphen] using h

/-- **A spelling keeps what is no digit**, but for hyphens. -/
theorem mem_of_decode? {c : Char} (hc : digitValue? c = none) (hhyphen : c ≠ '-')
    {spelling label : List Char} (h : decode? spelling = some label) (hmem : c ∈ spelling) :
    c ∈ label := by
  refine mem_of_decodeCodes hc h ?_
  split
  next => exact .inr hmem
  next => exact mem_around_hyphen hhyphen hmem

end Punycode

/-! ## Domains -/

namespace Domain

theorem mapped_of_isEdge {c : Char} (h : isEdge c = true) : mapped c = [c] := by
  have h : c.toNat ≤ 0x20 := isEdge_iff.mp h
  have hlower : c.toLower = c := by
    refine dif_neg fun hupper => ?_
    have : 'A'.toNat ≤ c.toNat := UInt32.le_iff_toNat_le.mp hupper.1
    have : 0x20 < 'A'.toNat := by decide
    omega
  rw [mapped, if_pos (by omega), hlower]

/-- The normal form of a text keeps its blanks and controls. -/
theorem mem_of_normalized {c : Char} (h : isEdge c = true) {cs normal : List Char}
    (hnormal : normalized cs = some normal) (hc : c ∈ cs) : c ∈ normal := by
  unfold normalized at hnormal
  split at hnormal
  next => cases hnormal
  next =>
    cases hnormal
    exact Text.mem_composed h (List.mem_flatMap.mpr ⟨c, hc, by simp [mapped_of_isEdge h]⟩)

/-- A label keeps its blanks and controls, even if it spells another one. -/
theorem mem_of_readLabel {c : Char} (h : isEdge c = true) {label read : List Char}
    (hread : readLabel label = some read) (hc : c ∈ label) : c ∈ read := by
  unfold readLabel at hread
  split at hread
  next hsign =>
    obtain ⟨spelling, rfl⟩ := List.isPrefixOf_iff_prefix.mp hsign
    have hsign : c ∉ spelledSign := by
      have hne : ∀ {d : Char}, isEdge d = false → c ≠ d := ne_of_isEdge h
      simp [spelledSign, hne (show isEdge 'x' = false from rfl),
        hne (show isEdge 'n' = false from rfl), hne (show isEdge '-' = false from rfl)]
    have hc : c ∈ spelling := (List.mem_append.mp hc).resolve_left hsign
    rw [List.drop_left, ofSpelling] at hread
    split at hread
    next => cases hread
    split at hread
    next => cases hread
    next hdecode =>
      split at hread
      next =>
        cases hread
        exact Punycode.mem_of_decode? (Punycode.digitValue?_of_isEdge h)
          (ne_of_isEdge h rfl) hdecode hc
      next => cases hread
  next => cases hread; exact hc

theorem isLabel_eq_false {c : Char} (h : isEdge c = true) {label : List Char} (hc : c ∈ label) :
    isLabel label = false := by
  have hforbidden : label.any isForbidden = true := by
    have h : c.toNat ≤ 0x20 := isEdge_iff.mp h
    exact List.any_eq_true.mpr ⟨c, hc, by simp [isForbidden, h]⟩
  rw [isLabel, hforbidden]
  rfl

/-- A text with a blank or a control in it is no domain. -/
theorem isEdge_eq_false_of_labels? {cs : List Char} {labels : List (List Char)}
    (h : labels? cs = some labels) : ∀ c ∈ cs, isEdge c = false := by
  intro c hc
  by_contra hedge
  rw [Bool.not_eq_false] at hedge
  simp only [labels?, Option.bind_eq_bind, Option.bind_eq_some_iff] at h
  obtain ⟨normal, hnormal, read, hread, h⟩ := h
  have hdot : c ≠ '.' := by rintro rfl; cases hedge
  obtain ⟨part, hpart, hc⟩ :=
    (mem_iff_exists_splitOn hdot _).mp (mem_of_normalized hedge hnormal hc)
  obtain ⟨label, hlabel, hpart⟩ := exists_of_mapM hread hpart
  split at h
  next hall =>
    rw [Bool.and_eq_true, List.all_eq_true] at hall
    cases (isLabel_eq_false hedge (mem_of_readLabel hedge hpart hc)).symm.trans (hall.1 _ hlabel)
  next => cases h

/-- No byte of a domain is a blank or a control. -/
theorem lt_of_ascii? {bytes : List UInt8} {name : List Char} (h : ascii? bytes = some name) :
    ∀ b ∈ bytes, 0x20 < b.toNat := by
  intro b hb
  unfold ascii? at h
  split at h
  next => cases h
  next text hread =>
    obtain ⟨labels, hlabels, -⟩ := Option.map_eq_some_iff.mp h
    by_contra hedge
    rw [Text.eq_utf8_of_readUtf8 hread, Text.mem_utf8 (by omega)] at hb
    obtain ⟨c, hc, hbyte⟩ := hb
    have := isEdge_eq_false_of_labels? hlabels c hc
    simp only [isEdge, decide_eq_false_iff_not] at this
    omega

end Domain

/-! ## Hosts -/

/-- **What is read as a host has no blank or control at its end.** -/
theorem isEdge_eq_false_of_readHost {cs : List Char} {host : Host} (h : readHost cs = .ok host) :
    ∀ c ∈ cs.getLast?, isEdge c = false := by
  intro c hc
  rw [Option.mem_def] at hc
  unfold readHost at h
  split at h
  next =>
    unfold readIpv6 at h
    split at h
    next => cases h
    next hbracket =>
      obtain rfl : c = ']' := by simpa [hc] using hbracket
      rfl
  split at h
  next => cases h
  next name hname =>
    by_contra hedge
    rw [Bool.not_eq_false] at hedge
    have hcode : c.toNat ≤ 0x20 := isEdge_iff.mp hedge
    have hbyte : (UInt8.ofNat c.toNat).toNat = c.toNat := by
      rw [UInt8.toNat_ofNat']
      omega
    have hhex : hexValue? (UInt8.ofNat c.toNat) = none := by
      rw [hexValue?, hbyte, Char.ofNat_toNat, Text.digitValue?_of_isEdge hedge, Option.map_none]
    have hsign : UInt8.ofNat c.toNat ≠ 0x25 := fun heq => by
      have : c.toNat = 0x25 := hbyte.symm.trans (congrArg UInt8.toNat heq)
      omega
    have hmem : UInt8.ofNat c.toNat ∈ Text.utf8 (String.ofList cs) := by
      rw [Text.mem_utf8 (by omega), String.toList_ofList]
      exact ⟨c, List.mem_of_getLast? hc, hbyte⟩
    have := Domain.lt_of_ascii? hname _ (mem_decodeBytes hsign hhex hmem)
    omega

end Url
end ModuleDepot
