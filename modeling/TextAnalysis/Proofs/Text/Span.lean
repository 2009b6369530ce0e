import TextAnalysis.Text.Span

/-!
# Laws of byte offsets

Byte lengths add up along a text. Dropping, taking and slicing succeed exactly where the text falls
into parts of the given lengths, so a slice that exists begins and ends between characters.
-/

namespace TextAnalysis.Text

/-- Byte lengths of texts that follow one another add up. -/
theorem byteLength_append (front back : List Char) :
    byteLength (front ++ back) = byteLength front + byteLength back := by
  induction front with
  | nil => rw [List.nil_append, byteLength, Nat.zero_add]
  | cons c front ih => rw [List.cons_append, byteLength, ih, byteLength, Nat.add_assoc]

/-- The byte length of a text of characters is its size as a string. -/
theorem utf8ByteSize_ofList (cs : List Char) : (String.ofList cs).utf8ByteSize = byteLength cs := by
  induction cs with
  | nil => rfl
  | cons c cs ih =>
    rw [String.ofList_cons, String.utf8ByteSize_append, String.utf8ByteSize_singleton, ih, byteLength]

/-- The size of a string is the byte length of its characters. -/
theorem byteLength_toList (s : String) : byteLength s.toList = s.utf8ByteSize := by
  rw [← utf8ByteSize_ofList, String.ofList_toList]

private theorem dropBytes?_cons (c : Char) (n : Nat) (cs : List Char) :
    dropBytes? (c.utf8Size + n) (c :: cs) = dropBytes? n cs := by
  obtain ⟨k, hk⟩ : ∃ k, c.utf8Size + n = k + 1 := ⟨c.utf8Size + n - 1, by have := c.utf8Size_pos; omega⟩
  rw [hk, dropBytes?, if_pos (by omega), ← hk, Nat.add_sub_cancel_left]

private theorem takeBytes?_cons (c : Char) (n : Nat) (cs : List Char) :
    takeBytes? (c.utf8Size + n) (c :: cs) = (takeBytes? n cs).map (c :: ·) := by
  obtain ⟨k, hk⟩ : ∃ k, c.utf8Size + n = k + 1 := ⟨c.utf8Size + n - 1, by have := c.utf8Size_pos; omega⟩
  rw [hk, takeBytes?, if_pos (by omega), ← hk, Nat.add_sub_cancel_left]

/-- The characters after a number of bytes exist exactly where a front part has that length. -/
theorem dropBytes?_eq_some_iff {n : Nat} {cs back : List Char} :
    dropBytes? n cs = some back ↔ ∃ front, cs = front ++ back ∧ byteLength front = n := by
  constructor
  · intro h
    induction cs generalizing n with
    | nil =>
      cases n with
      | zero => exact ⟨[], Option.some.inj h, rfl⟩
      | succ n => cases h
    | cons c cs ih =>
      cases n with
      | zero => exact ⟨[], Option.some.inj h, rfl⟩
      | succ n =>
        rw [dropBytes?] at h
        split at h
        · next hc =>
          obtain ⟨front, rfl, hf⟩ := ih h
          exact ⟨c :: front, rfl, by rw [byteLength, hf]; omega⟩
        · cases h
  · rintro ⟨front, rfl, rfl⟩
    induction front with
    | nil => rw [byteLength, List.nil_append, dropBytes?]
    | cons c front ih => rw [byteLength, List.cons_append, dropBytes?_cons, ih]

/-- The characters before a number of bytes exist exactly where a front part has that length. -/
theorem takeBytes?_eq_some_iff {n : Nat} {cs front : List Char} :
    takeBytes? n cs = some front ↔ ∃ back, cs = front ++ back ∧ byteLength front = n := by
  constructor
  · intro h
    induction cs generalizing n front with
    | nil =>
      cases n with
      | zero => cases h; exact ⟨[], rfl, rfl⟩
      | succ n => cases h
    | cons c cs ih =>
      cases n with
      | zero => cases h; exact ⟨c :: cs, rfl, rfl⟩
      | succ n =>
        rw [takeBytes?] at h
        split at h
        · next hc =>
          obtain ⟨rest, hr, rfl⟩ := Option.map_eq_some_iff.mp h
          obtain ⟨back, rfl, hf⟩ := ih hr
          exact ⟨back, rfl, by rw [byteLength, hf]; omega⟩
        · cases h
  · rintro ⟨back, rfl, rfl⟩
    induction front with
    | nil => rw [byteLength, takeBytes?]
    | cons c front ih => rw [byteLength, List.cons_append, takeBytes?_cons, ih, Option.map_some]

/-- Of two front parts of a text, the one of fewer bytes is a front part of the other. -/
private theorem isPrefix_of_byteLength_le {short long cs : List Char} (hs : short <+: cs)
    (hl : long <+: cs) (le : byteLength short ≤ byteLength long) : short <+: long := by
  obtain shorter | longer := List.prefix_or_prefix_of_prefix hs hl
  · exact shorter
  · obtain ⟨rest, rfl⟩ := longer
    cases rest with
    | nil => simp
    | cons c rest =>
      rw [byteLength_append, byteLength] at le
      have := c.utf8Size_pos
      omega

/-- A slice exists exactly where it stands between a part of `start` bytes and another part. -/
theorem slice?_eq_some_iff {text slice : String} {start stop : Nat} :
    slice? text start stop = some slice ↔
      ∃ front back, text.toList = front ++ slice.toList ++ back ∧ byteLength front = start ∧
        start + slice.utf8ByteSize = stop := by
  rw [slice?]
  constructor
  · intro h
    split at h
    · cases h
    · next hle =>
      obtain ⟨middle, hm, rfl⟩ := Option.map_eq_some_iff.mp h
      obtain ⟨rest, hd, ht⟩ := Option.bind_eq_some_iff.mp hm
      obtain ⟨front, hf, hs⟩ := dropBytes?_eq_some_iff.mp hd
      obtain ⟨back, rfl, hb⟩ := takeBytes?_eq_some_iff.mp ht
      refine ⟨front, back, ?_, hs, ?_⟩
      · rw [hf, String.toList_ofList, List.append_assoc]
      · rw [utf8ByteSize_ofList]
        omega
  · rintro ⟨front, back, ht, hs, hl⟩
    have hd : dropBytes? start text.toList = some (slice.toList ++ back) :=
      dropBytes?_eq_some_iff.mpr ⟨front, by rw [ht, List.append_assoc], hs⟩
    have hm : takeBytes? (stop - start) (slice.toList ++ back) = some slice.toList :=
      takeBytes?_eq_some_iff.mpr ⟨back, rfl, by rw [byteLength_toList]; omega⟩
    rw [if_neg (by omega), hd, Option.bind_some, hm, Option.map_some, String.ofList_toList]

/-- A slice that is not empty begins before it ends, and ends within the text. -/
theorem bounds_of_slice? {text slice : String} {start stop : Nat}
    (here : slice? text start stop = some slice) (nonempty : slice ≠ "") :
    start < stop ∧ stop ≤ text.utf8ByteSize := by
  obtain ⟨front, back, whole, begins, ends⟩ := slice?_eq_some_iff.mp here
  have positive : slice.utf8ByteSize ≠ 0 := mt String.utf8ByteSize_eq_zero_iff.mp nonempty
  have size := congrArg byteLength whole
  rw [byteLength_append, byteLength_append, byteLength_toList, byteLength_toList] at size
  omega

/-- Where one slice begins and where another one ends, there is a slice between if they are in order. -/
theorem exists_slice?_between {text slice slice' : String} {start stop start' stop' : Nat}
    (first : slice? text start stop = some slice) (last : slice? text start' stop' = some slice')
    (le : start ≤ stop') : ∃ between, slice? text start stop' = some between := by
  obtain ⟨front, back, whole, here, -⟩ := slice?_eq_some_iff.mp first
  obtain ⟨front', back', whole', there, ends⟩ := slice?_eq_some_iff.mp last
  have upTo : byteLength (front' ++ slice'.toList) = stop' := by
    rw [byteLength_append, byteLength_toList, there, ends]
  have opens : front <+: text.toList := by
    rw [whole, List.append_assoc]
    exact List.prefix_append front _
  have opens' : front' ++ slice'.toList <+: text.toList := by
    rw [whole']
    exact List.prefix_append _ back'
  have opening : front <+: front' ++ slice'.toList :=
    isPrefix_of_byteLength_le opens opens' (by rwa [here, upTo])
  obtain ⟨between, split⟩ := opening
  refine ⟨String.ofList between, slice?_eq_some_iff.mpr ⟨front, back', ?_, here, ?_⟩⟩
  · rw [String.toList_ofList, split, whole']
  · rw [utf8ByteSize_ofList, ← upTo, ← split, byteLength_append, here]

end TextAnalysis.Text
