import ClusterClient.Proofs.Json.Reading
namespace ClusterClient

namespace Decimal

theorem span_written {cs rest : List Char} {digits : Digits} (run : span cs = (digits,rest)) :
    cs = chars digits ++ rest := by
  induction cs generalizing digits rest with
  | nil =>
    cases run
    rfl
  | cons c tail ih =>
    cases first : digit? c with
    | none =>
      simp only [span,first] at run
      cases run
      rfl
    | some d =>
      simp only [span,first] at run
      cases run
      have later := ih rfl
      simpa [chars,digit?_eq_some.mp first] using later

end Decimal

namespace Json.Reading
open Decimal (Digits digit?)
open Grammar Reader
variable {cs rest : List Char}

theorem wholePart_written {whole : Digits} (read : wholePart cs = .ok (whole,rest)) :
    cs = Decimal.chars whole ++ rest := by
  cases cs with
  | nil => cases read
  | cons c tail =>
    cases first : digit? c with
    | none => simp [wholePart,first] at read
    | some d =>
      have later : tail = Decimal.chars (Decimal.span tail).1 ++ (Decimal.span tail).2 := Decimal.span_written rfl
      simp only [wholePart,first] at read
      split at read
      · cases read
      · cases read
        simpa [Decimal.chars,Decimal.digit?_eq_some.mp first] using later

theorem fractionPart_written {fraction : Option Digits} (read : fractionPart cs = .ok (fraction,rest)) :
    cs = fraction.elim [] (fun digits => '.' :: Decimal.chars digits) ++ rest := by
  unfold fractionPart at read
  split at read
  · rename_i tail
    split at read
    · cases read
    · cases read
    · rename_i digits after _ run
      cases read
      simpa using Decimal.span_written run
  · cases read
    rfl

theorem exponentDigits_scaled {negative : Bool} : exponentDigits negative cs ≠ .ok (none,rest) := by
  unfold exponentDigits
  split
  · simp
  · split <;> simp

theorem exponentPart_absent (read : exponentPart cs = .ok (none,rest)) : cs = rest := by
  have scaled : ∀ tail, exponentSign tail ≠ .ok (none,rest) := by
    intro tail
    unfold exponentSign
    split <;> exact exponentDigits_scaled
  unfold exponentPart at read
  split at read
  · exact absurd read (scaled _)
  · exact absurd read (scaled _)
  · cases read
    rfl

theorem number_written {negative : Bool} {n : Number} (read : Reader.number negative cs = .ok (n,rest))
    (plain : n.exponent = none) : sign negative ++ cs = n.chars ++ rest := by
  unfold Reader.number at read
  obtain ⟨⟨whole,afterWhole⟩,wholeRead,read⟩ := bind_eq_ok.mp read
  obtain ⟨⟨fraction,afterFraction⟩,fractionRead,read⟩ := bind_eq_ok.mp read
  obtain ⟨⟨exponent,after⟩,exponentRead,read⟩ := bind_eq_ok.mp read
  cases read
  cases plain
  rw [wholePart_written wholeRead,fractionPart_written fractionRead,exponentPart_absent exponentRead]
  cases fraction <;> simp [Number.chars,sign]

end Json.Reading
end ClusterClient
