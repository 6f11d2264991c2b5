import ModuleDepot.Proofs.Repository.Encoding
import ModuleDepot.Proofs.Url.Blank

/-! # Targets read back

Behind the root of a repository stands the place of a module and a resource, encoded. Nothing is
lost there. The texts that the encoding makes are exactly those without the signs of a query and of
a fragment in which every percent sign starts an escape (`isEscaped_iff`), and when the escapes of
such a text are decoded, as those of any URL, the text that was encoded is there again
(`decodeBytes_encodePath`). So a target tells what is requested (`target_is_lossless`), though not
where the resource begins.
-/

namespace ModuleDepot

/-! ## Bytes -/

/-- A text is told by its bytes. -/
theorem Text.utf8_injective : Function.Injective utf8 := by
  intro a b h
  have hbytes : a.toByteArray = b.toByteArray := by
    apply ByteArray.ext
    exact Array.toList_inj.mp h
  exact String.toByteArray_inj.mp hbytes

namespace Url

/-- A byte that is no percent sign stands for itself. -/
theorem decodeBytes_cons {b : UInt8} (h : b ≠ 0x25) (rest : List UInt8) :
    decodeBytes (b :: rest) = b :: decodeBytes rest := by
  match rest with
  | [] => rfl
  | [_] => rfl
  | _ :: _ :: _ => rw [decodeBytes, if_neg (by simpa using h)]

/-- A percent sign spells a byte with the two digits behind it. -/
theorem decodeBytes_spelled {h l high low : UInt8} (hh : hexValue? h = some high)
    (hl : hexValue? l = some low) (rest : List UInt8) :
    decodeBytes (0x25 :: h :: l :: rest) = (high * 16 + low) :: decodeBytes rest := by
  rw [decodeBytes, if_pos (by decide), hh, hl]

/-- Bytes without a percent sign stand for themselves. -/
theorem decodeBytes_append {bytes : List UInt8} (h : 0x25 ∉ bytes) (rest : List UInt8) :
    decodeBytes (bytes ++ rest) = bytes ++ decodeBytes rest := by
  induction bytes with
  | nil => rfl
  | cons b bytes ih =>
      rw [List.mem_cons, not_or] at h
      rw [List.cons_append, decodeBytes_cons (Ne.symm h.1), ih h.2, List.cons_append]

end Url

namespace HttpRepository

/-! ## Escaped texts -/

/-- The spellings of the characters that are encoded. -/
def escapes : List String := ["%25", "%3F", "%23"]

/-- Nothing ends the path, and every percent sign starts an escape. -/
structure IsEscaped (cs : List Char) : Prop where
  noQuery : '?' ∉ cs
  noFragment : '#' ∉ cs
  starts : ∀ behind, behind <:+ cs → behind.head? = some '%' →
    ∃ escape ∈ escapes, escape.toList <+: behind

theorem IsEscaped.of_suffix {cs behind : List Char} (h : IsEscaped cs) (hsuffix : behind <:+ cs) :
    IsEscaped behind where
  noQuery hmem := h.noQuery (hsuffix.mem hmem)
  noFragment hmem := h.noFragment (hsuffix.mem hmem)
  starts later hlater := h.starts later (hlater.trans hsuffix)

/-- An escaped text is empty, starts with an escape, or with a character that stands for itself. -/
theorem IsEscaped.cases {cs : List Char} (h : IsEscaped cs) :
    cs = [] ∨ ∃ c rest, cs = encodeChar c ++ rest ∧ IsEscaped rest := by
  cases cs with
  | nil => exact .inl rfl
  | cons c rest =>
      right
      by_cases hpercent : c = '%'
      · subst hpercent
        obtain ⟨escape, hmem, rest', hrest⟩ := h.starts _ List.suffix_rfl rfl
        have hescaped : IsEscaped rest' := h.of_suffix ⟨escape.toList, hrest⟩
        simp only [escapes, List.mem_cons, List.not_mem_nil, or_false] at hmem
        rcases hmem with rfl | rfl | rfl
        · exact ⟨'%', rest', hrest.symm, hescaped⟩
        · exact ⟨'?', rest', hrest.symm, hescaped⟩
        · exact ⟨'#', rest', hrest.symm, hescaped⟩
      · have hquery : c ≠ '?' := fun heq => h.noQuery (heq ▸ List.mem_cons_self)
        have hfragment : c ≠ '#' := fun heq => h.noFragment (heq ▸ List.mem_cons_self)
        refine ⟨c, rest, ?_, h.of_suffix (List.suffix_cons c rest)⟩
        simp [encodeChar, hpercent, hquery, hfragment]

/-- Of the three characters of an escape only the first one is a percent sign. -/
theorem eq_or_suffix_of_escape {high low : Char} (hhigh : high ≠ '%') (hlow : low ≠ '%')
    {behind rest : List Char} (h : behind <:+ '%' :: high :: low :: rest)
    (hhead : behind.head? = some '%') :
    behind = '%' :: high :: low :: rest ∨ behind <:+ rest := by
  simp only [List.suffix_cons_iff] at h
  rcases h with h | rfl | rfl | h
  · exact .inl h
  · exact absurd (Option.some.inj hhead) hhigh
  · exact absurd (Option.some.inj hhead) hlow
  · exact .inr h

theorem isEscaped_encode (cs : List Char) : IsEscaped (cs.flatMap encodeChar) where
  noQuery := not_mem_encode (.inl rfl) cs
  noFragment := not_mem_encode (.inr rfl) cs
  starts := by
    induction cs with
    | nil => simp
    | cons c cs ih =>
        intro behind hbehind hhead
        rw [List.flatMap_cons] at hbehind
        rcases encodeChar_cases c with ⟨hself, hpercent, -⟩ | ⟨-, hspelled⟩
        · rw [hself, List.singleton_append, List.suffix_cons_iff] at hbehind
          rcases hbehind with rfl | hlater
          · exact absurd (Option.some.inj hhead) hpercent
          · exact ih behind hlater hhead
        · have hescape : ∀ high low, high ≠ '%' → low ≠ '%' →
              encodeChar c = ['%', high, low] → String.ofList ['%', high, low] ∈ escapes →
              ∃ escape ∈ escapes, escape.toList <+: behind := by
            intro high low hhigh hlow hchar hmem
            rw [hchar] at hbehind
            rcases eq_or_suffix_of_escape hhigh hlow hbehind hhead with rfl | hlater
            · exact ⟨_, hmem, by simp⟩
            · exact ih behind hlater hhead
          simp only [List.mem_cons, List.not_mem_nil, or_false] at hspelled
          rcases hspelled with h | h | h
          · exact hescape '2' '5' (by decide) (by decide) h (by decide)
          · exact hescape '3' 'F' (by decide) (by decide) h (by decide)
          · exact hescape '2' '3' (by decide) (by decide) h (by decide)

/-- **The escaped texts are the encoded ones.** -/
theorem isEscaped_iff {cs : List Char} : IsEscaped cs ↔ ∃ text, cs = List.flatMap encodeChar text := by
  constructor
  · intro h
    -- By what is left behind the first character or escape.
    induction hlength : cs.length using Nat.strongRecOn generalizing cs with
    | _ n ih =>
        rcases h.cases with rfl | ⟨c, rest, rfl, hrest⟩
        · exact ⟨[], rfl⟩
        · have hne := List.length_pos_iff.mpr (encodeChar_ne_nil c)
          obtain ⟨text, rfl⟩ := ih rest.length (by simp at hlength; omega) hrest rfl
          exact ⟨c :: text, rfl⟩
  · rintro ⟨text, rfl⟩
    exact isEscaped_encode text

/-! ## Decoding -/

/-- The spelling of a character is decoded to its bytes. -/
theorem decodeBytes_encodeChar (c : Char) (rest : List UInt8) :
    Url.decodeBytes ((encodeChar c).flatMap String.utf8EncodeChar ++ rest) =
      String.utf8EncodeChar c ++ Url.decodeBytes rest := by
  rcases encodeChar_cases c with ⟨hself, hpercent, -⟩ | ⟨hmark, -⟩
  · rw [hself, List.flatMap_singleton]
    apply Url.decodeBytes_append
    rw [Text.mem_utf8EncodeChar (by decide)]
    intro hcode
    exact hpercent (Char.toNat_inj.mp hcode.symm)
  · have hspelled : ∀ high low byte : UInt8, ∀ h l : UInt8,
        Url.hexValue? h = some high → Url.hexValue? l = some low → high * 16 + low = byte →
        Url.decodeBytes ([0x25, h, l] ++ rest) = [byte] ++ Url.decodeBytes rest := by
      rintro high low _ h l hh hl rfl
      exact Url.decodeBytes_spelled hh hl rest
    rcases hmark with rfl | rfl | rfl
    · exact hspelled 2 5 _ 0x32 0x35 (by decide) (by decide) (by decide)
    · exact hspelled 3 15 _ 0x33 0x46 (by decide) (by decide) (by decide)
    · exact hspelled 2 3 _ 0x32 0x33 (by decide) (by decide) (by decide)

/-- **An encoded text is decoded to the text**, whatever it looks like. -/
theorem decodeBytes_encodePath (s : String) :
    Url.decodeBytes (Text.utf8 (encodePath s)) = Text.utf8 s := by
  rw [Text.utf8_eq, Text.utf8_eq, encodePath, String.toList_ofList]
  induction s.toList with
  | nil => rfl
  | cons c cs ih =>
      rw [List.flatMap_cons, List.flatMap_append, decodeBytes_encodeChar, ih, List.flatMap_cons]

theorem encodePath_injective : Function.Injective encodePath := by
  intro a b h
  apply Text.utf8_injective
  rw [← decodeBytes_encodePath a, ← decodeBytes_encodePath b, h]

/-- The encoded text is the escaped text that is decoded to it. -/
theorem eq_encodePath_iff {s suffix : String} :
    suffix = encodePath s ↔
      IsEscaped suffix.toList ∧ Url.decodeBytes (Text.utf8 suffix) = Text.utf8 s := by
  constructor
  · rintro rfl
    refine ⟨?_, decodeBytes_encodePath s⟩
    rw [encodePath, String.toList_ofList]
    exact isEscaped_encode s.toList
  · rintro ⟨hescaped, hdecoded⟩
    obtain ⟨text, htext⟩ := isEscaped_iff.mp hescaped
    have hsuffix : suffix = encodePath (String.ofList text) := by
      apply String.toList_injective
      simp [encodePath, htext]
    rw [hsuffix, decodeBytes_encodePath] at hdecoded
    rw [hsuffix, Text.utf8_injective hdecoded]

/-! ## What passes unchanged -/

/-- The text has none of the characters that are encoded. -/
def HasNoMark (s : String) : Prop :=
  ∀ c ∈ s.toList, c ≠ '%' ∧ c ≠ '?' ∧ c ≠ '#'

theorem hasNoMark_iff {s : String} :
    HasNoMark s ↔ '%' ∉ s.toList ∧ '?' ∉ s.toList ∧ '#' ∉ s.toList := by
  constructor
  · intro h
    exact ⟨fun hmem => (h _ hmem).1 rfl, fun hmem => (h _ hmem).2.1 rfl,
      fun hmem => (h _ hmem).2.2 rfl⟩
  · rintro ⟨hpercent, hquery, hfragment⟩ c hmem
    exact ⟨ne_of_mem_of_not_mem hmem hpercent, ne_of_mem_of_not_mem hmem hquery,
      ne_of_mem_of_not_mem hmem hfragment⟩

theorem hasNoMark_append {a b : String} : HasNoMark (a ++ b) ↔ HasNoMark a ∧ HasNoMark b := by
  simp only [HasNoMark, String.toList_append, List.forall_mem_append]

theorem length_le_length_encode (cs : List Char) : cs.length ≤ (cs.flatMap encodeChar).length := by
  induction cs with
  | nil => simp
  | cons c cs ih =>
      have hpos := List.length_pos_iff.mpr (encodeChar_ne_nil c)
      rw [List.flatMap_cons, List.length_append, List.length_cons]
      omega

/-- **Only a text with such a character is changed.** -/
theorem encodePath_eq_self_iff {s : String} : encodePath s = s ↔ HasNoMark s := by
  have hlist : encodePath s = s ↔ s.toList.flatMap encodeChar = s.toList := by
    rw [← String.toList_inj, encodePath, String.toList_ofList]
  rw [hlist, HasNoMark]
  induction s.toList with
  | nil => simp
  | cons c cs ih =>
      rw [List.flatMap_cons, List.forall_mem_cons]
      rcases encodeChar_cases c with ⟨hself, hmark⟩ | ⟨hmark, hspelled⟩
      · rw [hself, List.singleton_append, List.cons_inj_right]
        exact ih.trans ⟨fun hrest => ⟨hmark, hrest⟩, fun h => h.2⟩
      · -- An escape makes the text longer, and nothing behind it makes it shorter again.
        constructor
        · intro heq
          have hthree : (encodeChar c).length = 3 := by
            simp only [List.mem_cons, List.not_mem_nil, or_false] at hspelled
            rcases hspelled with h | h | h <;> simp [h]
          have hlength := congrArg List.length heq
          have hle := length_le_length_encode cs
          rw [List.length_append, List.length_cons] at hlength
          omega
        · rintro ⟨⟨hpercent, hquery, hfragment⟩, -⟩
          rcases hmark with h | h | h
          · exact absurd h hpercent
          · exact absurd h hquery
          · exact absurd h hfragment

/-! ## Targets -/

theorem target_eq (rootUrl : String) (timeout : Duration) (retry : RetryPolicy)
    (request : Request) :
    (create rootUrl timeout retry).target request =
      slashTerminated rootUrl ++ encodePath request.path := by
  rw [Request.path, encodePath_append, ← String.append_assoc]
  rfl

/-- **A target loses nothing.** It is the root with a slash at its end, and behind it an escaped text
that is decoded to what is requested. So two requests have one target exactly if they are the same
text, and that text stands in the target as it is exactly if none of its characters is encoded. -/
theorem target_is_lossless (rootUrl : String) (timeout : Duration) (retry : RetryPolicy) :
    let r := create rootUrl timeout retry
    (∀ request : Request, ∃ suffix, r.target request = slashTerminated rootUrl ++ suffix ∧
      IsEscaped suffix.toList ∧
      Url.decodeBytes (Text.utf8 suffix) = Text.utf8 (request.place ++ request.resource)) ∧
    (∀ a b : Request,
      r.target a = r.target b ↔ a.place ++ a.resource = b.place ++ b.resource) ∧
    (∀ request : Request,
      r.target request = slashTerminated rootUrl ++ (request.place ++ request.resource) ↔
        HasNoMark (request.place ++ request.resource)) := by
  intro r
  have htarget : ∀ request, r.target request = slashTerminated rootUrl ++ encodePath request.path :=
    target_eq rootUrl timeout retry
  refine ⟨?_, ?_, ?_⟩
  · intro request
    obtain ⟨hescaped, hdecoded⟩ := eq_encodePath_iff.mp (rfl : encodePath request.path = _)
    exact ⟨_, htarget request, hescaped, hdecoded⟩
  · intro a b
    rw [htarget, htarget, String.append_right_inj]
    exact encodePath_injective.eq_iff
  · intro request
    rw [htarget, String.append_right_inj]
    exact encodePath_eq_self_iff

/-- What looks like an escape is escaped itself, also one that begins in the place. -/
example : (ofUrl "http://h").target ⟨"trunk/m%", "3F?"⟩ = "http://h/trunk/m%253F%3F" := by decide

end HttpRepository
end ModuleDepot
