import CostGate.Proofs.Text.Lowercase

/-!
# Control characters in the upper case of a text

A control character is the upper case of itself only, so the upper case of a text has no control
characters but those of the text.
-/
namespace CostGate.Text

/-- A control character of ASCII other than the null character. -/
def IsControl (c : Char) : Prop := 0 < c.toNat ∧ c.toNat < 32

instance (c : Char) : Decidable (IsControl c) :=
  inferInstanceAs (Decidable (0 < c.toNat ∧ c.toNat < 32))

theorem le_of_mem_upperSequences : ∀ p ∈ Table.upperSequences, ∀ n ∈ p.2, 32 ≤ n := by
  decide +kernel

theorem le_of_mem_upperShifts :
    ∀ s ∈ Table.upperShifts, 32 ≤ (s.span.first : Int) + s.distance := by
  decide +kernel

theorem le_toNat_of_isAsciiLower {c : Char} (h : isAsciiLower c = true) :
    32 ≤ (Char.ofNat (c.toNat - 32)).toNat := by
  obtain ⟨hlow, hhigh⟩ : 97 ≤ c.toNat ∧ c.toNat ≤ 122 := between_iff.1 h
  have hvalid : (c.toNat - 32).isValidChar := .inl (by omega)
  rw [Char.toNat_ofNat, if_pos hvalid]
  omega

variable {c d : Char} {s : List Char}

theorem IsControl.eq_of_mem_upperOf (hc : IsControl c) (h : c ∈ upperOf d) : c = d := by
  obtain ⟨hpos, hlt⟩ := hc
  have hmapped {n : ℕ} (hn : n ≠ c.toNat) : c ≠ Char.ofNat n := by
    rintro rfl
    rw [Char.toNat_ofNat] at hn hpos
    split_ifs at hn hpos
    · exact hn rfl
    · exact absurd hpos (lt_irrefl 0)
  rw [upperOf] at h
  split_ifs at h
  · rw [List.mem_singleton, asciiUpper] at h
    split_ifs at h with hlower
    · have := le_toNat_of_isAsciiLower hlower
      rw [← h] at this
      omega
    · exact h
  · split at h
    · next ns hns =>
      obtain ⟨before, after, htable, -⟩ := List.lookup_eq_some_iff.1 hns
      obtain ⟨n, hn, hcn⟩ := List.mem_map.1 h
      have := le_of_mem_upperSequences (d.toNat, ns) (by simp [htable]) n hn
      exact absurd hcn.symm (hmapped (by omega))
    · split at h
      · next n hn =>
        refine absurd (List.mem_singleton.1 h) (hmapped (target?_ne (fun s hs hle => ?_) hn hpos))
        have := le_of_mem_upperShifts s hs
        omega
      · exact List.mem_singleton.1 h

theorem IsControl.not_mem_uppercase (hc : IsControl c) (h : c ∉ s) : c ∉ uppercase s := by
  rw [uppercase, List.mem_flatMap]
  rintro ⟨d, hd, hmem⟩
  exact h (hc.eq_of_mem_upperOf hmem ▸ hd)

end CostGate.Text
