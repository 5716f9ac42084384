import DocAudit.Comment.Parser
import DocAudit.Proofs.Finding.Standard
import DocAudit.Proofs.Text.Sigma
import Mathlib

/-! # Restatement — summaries that repeat the name

    A summary should say more than the name of its element.  Name and summary are lowered EACH BY
    ITSELF and then compared, so a name that stands in the summary letter for letter is found
    there exactly if it is lowered within the summary as it is alone.  A name without a sigma
    always is; a name with a sigma at its edge is missed where the rest of the word goes on
    beyond the edge. -/

namespace DocAudit

open Text

variable {kind : Kind} {name summary : Text} {doc : Comment}

/-- It is reported that the summary restates the name. -/
def Clause.Restating (kind : Kind) (name : Text) (place : Place) (doc : Comment) : Prop :=
  Clause.original.finding kind name place ∈ Subject.check ⟨kind, name, place.address⟩ (some doc)

instance (kind : Kind) (name : Text) (place : Place) (doc : Comment) :
    Decidable (Clause.Restating kind name place doc) :=
  inferInstanceAs (Decidable (_ ∈ _))

/-- Up to letter case the summary holds the name with a space after it, if the part before some
    space ends with the name. -/
theorem lower_space_infix_iff (name summary : Text) :
    lower name ++ [' '] <:+: lower summary ↔
      ∃ front back, summary = front ++ ' ' :: back ∧ lower name <:+ lower front := by
  have hspace : isBlank ' ' = true := by decide
  constructor
  · rintro ⟨u, v, h⟩
    have hcut : lower summary = (u ++ lower name) ++ ' ' :: v := by simp [← h]
    obtain ⟨front, back, hsummary, hfront, -⟩ := exists_cut_of_lower hspace hcut
    exact ⟨front, back, hsummary, hfront ▸ List.suffix_append u (lower name)⟩
  · rintro ⟨front, back, rfl, u, hu⟩
    rw [lower_append_blank front hspace, ← hu]
    exact ⟨u, lower back, by simp⟩

/-- Classes, interfaces and traits are reported exactly if the lowered name begins the lowered
    summary or ends what comes before a space. -/
theorem restating_iff (hkind : kind ∈ [.cls, .interface, .trait]) (hname : name ≠ [])
    (place : Place) (hsummary : doc.summary = some summary) :
    Clause.Restating kind name place doc ↔ lower name <+: lower summary ∨
      ∃ front back, summary = front ++ ' ' :: back ∧ lower name <:+ lower front := by
  have hrow : Clause.original ∈ Clause.row kind :=
    (show ∀ kind ∈ [Kind.cls, .interface, .trait], Clause.original ∈ Clause.row kind by decide)
      kind hkind
  have hbroken : Clause.Restating kind name place doc ↔
      Clause.Broken name (some doc) .original := by
    rw [Clause.Restating, Clause.mem_check_iff]
    constructor
    · rintro ⟨clause, -, hclause, heq⟩
      exact Clause.finding_injective kind name place heq ▸ hclause
    · intro hclause
      exact ⟨.original, hrow, hclause, rfl⟩
  have hlower : lower name ≠ [] := lowerFrom_ne_nil false hname
  rw [hbroken, ← lower_space_infix_iff, or_comm]
  constructor
  · rintro ⟨shown, ⟨hshown, -⟩, h⟩
    obtain rfl := Option.some.inj (hsummary.symm.trans hshown)
    exact h
  · intro h
    refine ⟨summary, ⟨hsummary, ?_⟩, h⟩
    -- an empty summary holds no name
    rintro rfl
    rcases h with h | h
    · exact absurd (List.infix_nil.mp h) (by simp)
    · exact hlower (List.prefix_nil.mp h)

/-- **RESTATED NAMES ARE REPORTED, BUT FOR A SIGMA AT THE EDGE**: a name at the beginning of the
    summary is found there unless it closes with a sigma and its word goes on, and a name before
    a space is found there unless it opens with a sigma and its word began earlier.  Names
    without a sigma are always reported. -/
theorem restatement_reported (hkind : kind ∈ [.cls, .interface, .trait]) (hname : name ≠ [])
    (place : Place) (hsummary : doc.summary = some summary) :
    (Clause.Restating kind name place doc ↔ lower name <+: lower summary ∨
      ∃ front back, summary = front ++ ' ' :: back ∧ lower name <:+ lower front) ∧
    (∀ rest, summary = name ++ rest →
      (lower name <+: lower summary ↔
        ¬ (ClosesWithSigma false name ∧ casedAhead rest = true))) ∧
    (∀ front back, summary = front ++ name ++ ' ' :: back →
      (lower name <:+ lower (front ++ name) ↔
        ¬ (OpensWithSigma name ∧ casedBehind false front = true))) ∧
    ('Σ' ∉ name → name <+: summary ∨ name ++ [' '] <:+: summary →
      Clause.Restating kind name place doc) := by
  have hreported := restating_iff hkind hname place hsummary
  refine ⟨hreported, ?_, ?_, ?_⟩
  · rintro rest rfl
    exact lower_prefix_iff name rest
  · rintro front back rfl
    exact lower_suffix_iff front name
  · rintro hsigma (⟨rest, rfl⟩ | ⟨front, back, rfl⟩)
    · have hbegins := (lower_prefix_iff name rest).mpr fun h => not_closesWithSigma hsigma _ h.1
      exact hreported.mpr (Or.inl hbegins)
    · have hends := (lower_suffix_iff front name).mpr fun h => not_opensWithSigma hsigma h.1
      exact hreported.mpr (Or.inr ⟨front ++ name, back, by simp, hends⟩)

/-- The comment on a class, with this summary and all the tags that it needs. -/
def completeClass (summary : Text) : Comment :=
  ⟨some summary, [], [⟨"@package", "p"⟩, ⟨"@since", "1"⟩, ⟨"@api", []⟩]⟩

/-- A name that closes with a sigma is reported where its word ends, and a name without a sigma
    also where its word goes on. -/
theorem restatement_reported_roads :
    Clause.Restating .cls "ΟΔΟΣ" ⟨"a.php", 1, 1⟩ (completeClass "ΟΔΟΣ register.") ∧
      Clause.Restating .trait "ΟΔΟ" ⟨"a.php", 1, 1⟩ (completeClass "ΟΔΟΣ register.") := by
  obtain ⟨hreported, hbegins, -⟩ := @restatement_reported .cls "ΟΔΟΣ" "ΟΔΟΣ register."
    (completeClass "ΟΔΟΣ register.") (by decide) (by decide) ⟨"a.php", 1, 1⟩ rfl
  obtain ⟨-, -, -, hplain⟩ := @restatement_reported .trait "ΟΔΟ" "ΟΔΟΣ register."
    (completeClass "ΟΔΟΣ register.") (by decide) (by decide) ⟨"a.php", 1, 1⟩ rfl
  refine ⟨hreported.mpr (Or.inl ((hbegins " register." (by decide)).mpr ?_)), ?_⟩
  · rintro ⟨-, hahead⟩
    exact absurd hahead (by decide)
  · exact hplain (by decide) (Or.inl (by decide))

/-- A summary that begins with the name, and one that holds the name and a space: neither is
    reported, since a sigma is lowered in two ways. -/
theorem restatement_missed :
    Comment.parse "/**\n * ΟΔΟΣ's register.\n * @package p\n * @since 1\n * @api\n */"
        = .ok (completeClass "ΟΔΟΣ's register.") ∧
      "ΟΔΟΣ".toList <+: "ΟΔΟΣ's register.".toList ∧
      ¬ Clause.Restating .cls "ΟΔΟΣ" ⟨"a.php", 1, 1⟩ (completeClass "ΟΔΟΣ's register.") ∧
      Comment.parse "/**\n * The ΔΣ register.\n * @package p\n * @since 1\n * @api\n */"
        = .ok (completeClass "The ΔΣ register.") ∧
      "Σ ".toList <:+: "The ΔΣ register.".toList ∧
      ¬ Clause.Restating .cls "Σ" ⟨"a.php", 1, 1⟩ (completeClass "The ΔΣ register.") := by
  have hroads :
      ¬ Clause.Restating .cls "ΟΔΟΣ" ⟨"a.php", 1, 1⟩ (completeClass "ΟΔΟΣ's register.") := by
    decide +kernel
  have hdelta :
      ¬ Clause.Restating .cls "Σ" ⟨"a.php", 1, 1⟩ (completeClass "The ΔΣ register.") := by
    decide +kernel
  exact ⟨by cbv, by decide, hroads, by cbv, ⟨"The Δ", "register.", by decide⟩, hdelta⟩

end DocAudit
