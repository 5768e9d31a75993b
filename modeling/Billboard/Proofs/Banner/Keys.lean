import Billboard.Banner
import Billboard.Proofs.Text.Digits
import Billboard.Proofs.Text.Split

namespace Billboard

namespace Banner

open Text

lemma colon_notMem_intText (i : Int) : ':' ∉ (intText i).toList := by
  intro h
  rw [intText, String.toList_ofList] at h
  rcases mem_intDigits h with h | h <;> revert h <;> decide

lemma payloadKey_injective : Function.Injective payloadKey := by
  intro i j h
  have hl := congrArg String.toList h
  simp only [payloadKey, String.toList_append] at hl
  exact intText_injective (String.toList_injective (List.append_cancel_left hl))

@[simp] lemma payloadKey_inj {i j : Int} : payloadKey i = payloadKey j ↔ i = j :=
  payloadKey_injective.eq_iff

@[simp] lemma indexKey_inj {f t g u : Int} : indexKey f t = indexKey g u ↔ f = g ∧ t = u := by
  refine ⟨fun h => ?_, fun ⟨hf, ht⟩ => hf ▸ ht ▸ rfl⟩
  have hl := congrArg String.toList h
  simp only [indexKey, String.toList_append, List.append_assoc] at hl
  have hc := congrArg (cutAt ':') (List.append_cancel_left hl)
  change cutAt ':' (_ ++ ':' :: _) = cutAt ':' (_ ++ ':' :: _) at hc
  rw [cutAt_append_mark _ (colon_notMem_intText f), cutAt_append_mark _ (colon_notMem_intText g)]
    at hc
  obtain ⟨hf, ht⟩ := Prod.mk.inj (Option.some.inj hc)
  exact ⟨intText_injective (String.toList_injective hf),
    intText_injective (String.toList_injective (List.append_cancel_left ht))⟩

lemma payloadKey_ne_indexKey (id f t : Int) : payloadKey id ≠ indexKey f t := by
  intro h
  have hl := congrArg (fun key => key.toList.head?) h
  simp only [payloadKey, indexKey, String.toList_append, List.append_assoc] at hl
  cases hl

lemma mem_indexKeys {b : Banner} {f t : Int} :
    indexKey f t ∈ b.indexKeys ↔ b.serves f t = true := by
  simp only [indexKeys, List.mem_map, indexKey_inj, serves, Bool.and_eq_true, beq_iff_eq,
    List.contains_iff_mem]
  constructor
  · rintro ⟨u, hu, hf, rfl⟩
    exact ⟨hf, hu⟩
  · rintro ⟨hf, ht⟩
    exact ⟨t, ht, hf, rfl⟩

end Banner

end Billboard
