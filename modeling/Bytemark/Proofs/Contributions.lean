/-
Module: Bytemark.Proofs.Contributions
Purpose: What a file holds after one writer with an offset of its own and others that append.
Trusted boundary: none
Main exports: Contribution, Contributions.Orderly, Contributions.Fits, Contributions.Stands,
  Contributions.Fits.put_append, Contributions.Fits.put_overwrite
-/
import Bytemark.Proofs.FileTree

namespace Bytemark

/-!
The writer that created a file keeps an offset of its own; all others write at
the end.  Nothing gets lost as long as the creator is done before another one
starts.  When it writes again after that, it writes over octets of others, and
the file is from then on shorter than what was written to it.
-/

/-- Octets that one call has written. -/
structure Contribution where
  octets : Octets
  /-- Whether they were written through the opening that created the file. -/
  byCreator : Bool
deriving Repr, Inhabited, DecidableEq

/-- Contributions in the order in which they were made. -/
abbrev Contributions := List Contribution

namespace Contributions

/-- All octets, one contribution behind the other. -/
def octets (log : Contributions) : Octets := log.flatMap Contribution.octets

/-- The creator has written nothing behind what another one has written. -/
def Orderly (log : Contributions) : Prop :=
  log.Pairwise fun earlier later =>
    earlier.octets ≠ [] → later.octets ≠ [] → later.byCreator = true → earlier.byCreator = true

instance (log : Contributions) : Decidable log.Orderly :=
  inferInstanceAs (Decidable (log.Pairwise _))

/-- Nobody has written anything. -/
def Silent (log : Contributions) : Prop := ∀ contribution ∈ log, contribution.octets = []

/-- Someone other than the creator has written something. -/
def Mixed (log : Contributions) : Prop :=
  ∃ contribution ∈ log, contribution.octets ≠ [] ∧ contribution.byCreator = false

theorem octets_concat (log : Contributions) (written : Octets) (byCreator : Bool) :
    octets (log ++ [⟨written, byCreator⟩]) = log.octets ++ written := by
  simp [octets]

/-- One contribution more keeps the order unless the creator writes behind others. -/
theorem orderly_concat_iff (log : Contributions) (next : Contribution) :
    Orderly (log ++ [next]) ↔
      log.Orderly ∧ (next.octets ≠ [] → next.byCreator = true → ¬ log.Mixed) := by
  unfold Orderly Mixed
  rw [List.pairwise_append]
  constructor
  · rintro ⟨orderly, -, pairs⟩
    refine ⟨orderly, ?_⟩
    rintro written creator ⟨earlier, member, nonempty, other⟩
    have same := pairs earlier member next (List.mem_singleton_self next) nonempty written creator
    rw [other] at same
    cases same
  · rintro ⟨orderly, alone⟩
    refine ⟨orderly, List.pairwise_singleton _ _, ?_⟩
    intro earlier member later last nonempty written creator
    rw [List.mem_singleton.mp last] at written creator
    cases which : earlier.byCreator with
    | true => rfl
    | false => exact absurd ⟨earlier, member, nonempty, which⟩ (alone written creator)

theorem orderly_concat_other_iff (log : Contributions) (written : Octets) :
    Orderly (log ++ [⟨written, false⟩]) ↔ log.Orderly := by
  rw [orderly_concat_iff]
  simp

theorem mixed_concat_other_iff (log : Contributions) (written : Octets) :
    Mixed (log ++ [⟨written, false⟩]) ↔ log.Mixed ∨ written ≠ [] := by
  simp [Mixed, or_and_right, exists_or]

theorem mixed_concat_creator_iff (log : Contributions) (written : Octets) :
    Mixed (log ++ [⟨written, true⟩]) ↔ log.Mixed := by
  simp [Mixed, or_and_right, exists_or]

/-- A content is what the file held in the beginning and all contributions if
these came in order, and shorter otherwise. -/
structure Fits (log : Contributions) (base content : Octets) : Prop where
  orderly : log.Orderly → content = base ++ log.octets
  disorderly : ¬ log.Orderly → content.length < base.length + log.octets.length

/-- Where the handle of the creator stands: at the end until another one has
written, and before the end afterwards. -/
structure Stands (log : Contributions) (content : Octets) (offset : Nat) : Prop where
  within : offset ≤ content.length
  alone : log.Orderly → ¬ log.Mixed → offset = content.length
  overtaken : log.Orderly → log.Mixed → offset < content.length

/-- The content tells whether the contributions came in order. -/
theorem Fits.content_eq_iff {log : Contributions} {base content : Octets}
    (fits : log.Fits base content) : content = base ++ log.octets ↔ log.Orderly := by
  constructor
  · intro same
    by_cases orderly : log.Orderly
    · exact orderly
    · have shorter := fits.disorderly orderly
      rw [same, List.length_append] at shorter
      exact absurd shorter (Nat.lt_irrefl _)
  · exact fits.orderly

/-! ### Before the first octet -/

theorem Silent.concat {log : Contributions} (silent : log.Silent) (byCreator : Bool) :
    Silent (log ++ [⟨[], byCreator⟩]) := by
  intro contribution member
  rcases List.mem_append.mp member with before | last
  · exact silent contribution before
  · rw [List.mem_singleton.mp last]

theorem Silent.octets_eq {log : Contributions} (silent : log.Silent) : log.octets = [] :=
  List.flatMap_eq_nil_iff.mpr silent

theorem Silent.orderly {log : Contributions} (silent : log.Silent) : log.Orderly := by
  apply List.pairwise_iff_forall_sublist.mpr
  intro earlier later pair nonempty
  have member : earlier ∈ log := pair.subset List.mem_cons_self
  exact absurd (silent earlier member) nonempty

theorem Silent.fits {log : Contributions} (silent : log.Silent) (base : Octets) :
    log.Fits base base := by
  constructor
  · intro _
    rw [silent.octets_eq, List.append_nil]
  · intro disorderly
    exact absurd silent.orderly disorderly

theorem Silent.stands {log : Contributions} (silent : log.Silent) (content : Octets) :
    log.Stands content content.length := by
  refine ⟨Nat.le_refl _, fun _ _ => rfl, ?_⟩
  rintro - ⟨contribution, member, nonempty, -⟩
  exact absurd (silent contribution member) nonempty

/-! ### One contribution more -/

/-- Octets at the end. -/
theorem Fits.put_append {log : Contributions} {base content : Octets}
    (fits : log.Fits base content) (written : Octets) :
    Fits (log ++ [⟨written, false⟩]) base (WriteMode.append.put content written) := by
  constructor
  · intro orderly
    rw [orderly_concat_other_iff] at orderly
    rw [WriteMode.put, fits.orderly orderly, octets_concat, List.append_assoc]
  · intro disorderly
    rw [orderly_concat_other_iff] at disorderly
    have shorter := fits.disorderly disorderly
    rw [WriteMode.put, octets_concat, List.length_append, List.length_append]
    omega

theorem Stands.put_append {log : Contributions} {content : Octets} {offset : Nat}
    (stands : log.Stands content offset) (written : Octets) :
    Stands (log ++ [⟨written, false⟩]) (WriteMode.append.put content written) offset := by
  have within := stands.within
  constructor
  · rw [WriteMode.put, List.length_append]
    omega
  · intro orderly unmixed
    rw [orderly_concat_other_iff] at orderly
    rw [mixed_concat_other_iff, not_or, Classical.not_not] at unmixed
    rw [unmixed.2, WriteMode.put, List.append_nil]
    exact stands.alone orderly unmixed.1
  · intro orderly mixed
    rw [orderly_concat_other_iff] at orderly
    rw [WriteMode.put, List.length_append]
    rcases (mixed_concat_other_iff _ _).mp mixed with before | nonempty
    · have less := stands.overtaken orderly before
      omega
    · have positive := List.length_pos_iff.mpr nonempty
      omega

theorem length_put_overwrite {content : Octets} {offset : Nat}
    (within : offset ≤ content.length) (written : Octets) :
    ((WriteMode.overwrite offset).put content written).length =
      max content.length (offset + written.length) := by
  simp only [WriteMode.put, List.length_append, List.length_take, List.length_drop]
  omega

/-- Octets of the creator: they come behind the others if there are none, and
over the last ones otherwise. -/
theorem Fits.put_overwrite {log : Contributions} {base content : Octets} {offset : Nat}
    (fits : log.Fits base content) (stands : log.Stands content offset) (written : Octets) :
    Fits (log ++ [⟨written, true⟩]) base ((WriteMode.overwrite offset).put content written) := by
  have within := stands.within
  constructor
  · intro orderly
    obtain ⟨before, alone⟩ := (orderly_concat_iff _ _).mp orderly
    rw [octets_concat, ← List.append_assoc, ← fits.orderly before]
    by_cases nothing : written = []
    · rw [nothing, WriteMode.put_nil, List.append_nil]
    · have atEnd := stands.alone before (alone nothing rfl)
      rw [WriteMode.put, atEnd, List.take_length, List.drop_of_length_le (by omega),
        List.append_nil]
  · intro disorderly
    rw [length_put_overwrite within, octets_concat, List.length_append]
    by_cases before : log.Orderly
    · -- The order is lost by this contribution: it has octets, and others had some.
      have behind : written ≠ [] ∧ log.Mixed := by
        rw [orderly_concat_iff, not_and] at disorderly
        simpa using disorderly before
      have less := stands.overtaken before behind.2
      have positive := List.length_pos_iff.mpr behind.1
      have whole := congrArg List.length (fits.orderly before)
      rw [List.length_append] at whole
      omega
    · have shorter := fits.disorderly before
      omega

theorem Stands.put_overwrite {log : Contributions} {content : Octets} {offset : Nat}
    (stands : log.Stands content offset) (written : Octets) :
    Stands (log ++ [⟨written, true⟩]) ((WriteMode.overwrite offset).put content written)
      (offset + written.length) := by
  have within := stands.within
  constructor
  · rw [length_put_overwrite within]
    omega
  · intro orderly unmixed
    obtain ⟨before, -⟩ := (orderly_concat_iff _ _).mp orderly
    rw [mixed_concat_creator_iff] at unmixed
    have atEnd := stands.alone before unmixed
    rw [length_put_overwrite within]
    omega
  · intro orderly mixed
    obtain ⟨before, alone⟩ := (orderly_concat_iff _ _).mp orderly
    rw [mixed_concat_creator_iff] at mixed
    have less := stands.overtaken before mixed
    have nothing : written = [] := by
      by_cases nonempty : written = []
      · exact nonempty
      · exact absurd mixed (alone nonempty rfl)
    rw [nothing, WriteMode.put_nil, List.length_nil, Nat.add_zero]
    exact less

end Contributions

end Bytemark
