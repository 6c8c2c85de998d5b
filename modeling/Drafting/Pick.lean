/-! Taking the first element with a property out of a list. -/
namespace Drafting

def pick? (p : τ → Bool) : List τ → Option (τ × List τ)
  | [] => none
  | x :: xs => if p x then some (x, xs) else (pick? p xs).map fun (y, ys) => (y, x :: ys)

theorem length_of_pick? {p : τ → Bool} {xs ys : List τ} {y : τ} (h : pick? p xs = some (y, ys)) :
    ys.length < xs.length := by
  induction xs generalizing ys with
  | nil => simp [pick?] at h
  | cons x xs ih =>
    simp only [pick?] at h
    split at h
    · obtain ⟨rfl, rfl⟩ := by simpa using h
      simp
    · obtain ⟨⟨z, zs⟩, found, same⟩ := Option.map_eq_some_iff.mp h
      obtain ⟨rfl, rfl⟩ := by simpa using same
      simpa using ih found

end Drafting
