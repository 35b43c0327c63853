import EndpointDocs.Text.Utf8

/-!
# Places in texts

The place behind a text is the number of its bytes, so two texts one behind the other meet at the
number of bytes of the first.  Between the places at which a text begins and ends stands that text.
-/

namespace EndpointDocs
namespace Text

@[simp] theorem byteLength_nil : byteLength [] = 0 := rfl

@[simp] theorem byteLength_cons (c : Char) (t : Text) :
    byteLength (c :: t) = c.utf8Size + byteLength t := rfl

@[simp] theorem byteLength_append (a b : Text) :
    byteLength (a ++ b) = byteLength a + byteLength b := by
  induction a with
  | nil =>
      rw [List.nil_append, byteLength_nil, Nat.zero_add]
  | cons c rest ih =>
      rw [List.cons_append, byteLength_cons, byteLength_cons, ih, Nat.add_assoc]

@[simp] theorem length_encode (t : Text) : (encode t).length = byteLength t := by
  induction t with
  | nil =>
      rfl
  | cons c rest ih =>
      rw [encode] at ih ⊢
      rw [List.flatMap_cons, List.length_append, String.length_utf8EncodeChar, ih, byteLength_cons]

theorem encode_append (a b : Text) : encode (a ++ b) = encode a ++ encode b := by
  rw [encode, encode, encode, List.flatMap_append]

theorem dropBytes?_zero (t : Text) : dropBytes? 0 t = some t := by
  cases t <;> rfl

theorem takeBytes?_zero (t : Text) : takeBytes? 0 t = some [] := by
  cases t <;> rfl

theorem dropBytes?_append (a b : Text) : dropBytes? (byteLength a) (a ++ b) = some b := by
  induction a with
  | nil =>
      exact dropBytes?_zero b
  | cons c rest ih =>
      have hpositive : c.utf8Size + byteLength rest ≠ 0 := by
        have hsize := c.utf8Size_pos
        omega
      have hle : c.utf8Size ≤ c.utf8Size + byteLength rest := Nat.le_add_right _ _
      rw [List.cons_append, byteLength_cons, dropBytes?, if_neg hpositive, if_pos hle,
        Nat.add_sub_cancel_left, ih]

theorem takeBytes?_append (a b : Text) : takeBytes? (byteLength a) (a ++ b) = some a := by
  induction a with
  | nil =>
      exact takeBytes?_zero b
  | cons c rest ih =>
      have hpositive : c.utf8Size + byteLength rest ≠ 0 := by
        have hsize := c.utf8Size_pos
        omega
      have hle : c.utf8Size ≤ c.utf8Size + byteLength rest := Nat.le_add_right _ _
      rw [List.cons_append, byteLength_cons, takeBytes?, if_neg hpositive, if_pos hle,
        Nat.add_sub_cancel_left, ih, Option.map_some]

theorem dropBytes?_eq_some_iff {n : Nat} {t rest : Text} :
    dropBytes? n t = some rest ↔ ∃ front, t = front ++ rest ∧ byteLength front = n := by
  constructor
  · intro h
    induction t generalizing n with
    | nil =>
        unfold dropBytes? at h
        split at h
        · next hn =>
            injection h with h
            exact ⟨[], h, hn.symm⟩
        · cases h
    | cons c later ih =>
        unfold dropBytes? at h
        split at h
        · next hn =>
            injection h with h
            exact ⟨[], h, hn.symm⟩
        · split at h
          · next hle =>
              rcases ih h with ⟨front, hlater, hlength⟩
              refine ⟨c :: front, by rw [hlater, List.cons_append], ?_⟩
              rw [byteLength_cons, hlength, Nat.add_sub_cancel' hle]
          · cases h
  · rintro ⟨front, rfl, rfl⟩
    exact dropBytes?_append front rest

theorem takeBytes?_eq_some_iff {n : Nat} {t front : Text} :
    takeBytes? n t = some front ↔ ∃ rest, t = front ++ rest ∧ byteLength front = n := by
  constructor
  · intro h
    induction t generalizing n front with
    | nil =>
        unfold takeBytes? at h
        split at h
        · next hn =>
            injection h with h
            subst h
            exact ⟨[], rfl, hn.symm⟩
        · cases h
    | cons c later ih =>
        unfold takeBytes? at h
        split at h
        · next hn =>
            injection h with h
            subst h
            exact ⟨c :: later, rfl, hn.symm⟩
        · split at h
          · next hle =>
              rcases Option.map_eq_some_iff.mp h with ⟨more, hmore, rfl⟩
              rcases ih hmore with ⟨rest, hlater, hlength⟩
              refine ⟨rest, by rw [hlater, List.cons_append], ?_⟩
              rw [byteLength_cons, hlength, Nat.add_sub_cancel' hle]
          · cases h
  · rintro ⟨rest, rfl, rfl⟩
    exact takeBytes?_append front rest

theorem slice?_append (front mid back : Text) :
    slice? (front ++ (mid ++ back)) (byteLength front) (byteLength front + byteLength mid) =
      some mid := by
  have hle : byteLength front ≤ byteLength front + byteLength mid := Nat.le_add_right _ _
  rw [slice?, if_pos hle, dropBytes?_append, Option.bind_some, Nat.add_sub_cancel_left,
    takeBytes?_append]

/-- A text has a slice only between two places that cut no character, the second not before the
first. -/
theorem slice?_eq_some_iff {t mid : Text} {start stop : Nat} :
    slice? t start stop = some mid ↔
      ∃ front back, t = front ++ (mid ++ back) ∧ start = byteLength front ∧
        stop = byteLength front + byteLength mid := by
  constructor
  · intro h
    unfold slice? at h
    split at h
    · next hle =>
        rcases Option.bind_eq_some_iff.mp h with ⟨rest, hdrop, htake⟩
        rcases dropBytes?_eq_some_iff.mp hdrop with ⟨front, ht, hfront⟩
        rcases takeBytes?_eq_some_iff.mp htake with ⟨back, hrest, hmid⟩
        refine ⟨front, back, by rw [ht, hrest], hfront.symm, ?_⟩
        rw [hfront, hmid, Nat.add_sub_cancel' hle]
    · cases h
  · rintro ⟨front, back, rfl, rfl, rfl⟩
    exact slice?_append front mid back

theorem bytes_append (front mid back : Text) :
    ((encode (front ++ (mid ++ back))).drop (byteLength front)).take (byteLength mid) =
      encode mid := by
  rw [encode_append, encode_append, ← length_encode front, List.drop_left, ← length_encode mid,
    List.take_left]

end Text
end EndpointDocs
