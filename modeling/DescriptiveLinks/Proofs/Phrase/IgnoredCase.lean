import Mathlib.Data.List.Basic
import DescriptiveLinks.Proofs.Phrase.Words

/-! # Keys ignore case

A key is made of the folded form of a text, and that form is taken after upper-casing. So that
neither of the two mappings can be told from the key, a letter and its image under one of them must
have the same folded form. For upper-casing that is so because upper case is its own upper case. For
case folding the table is checked: a letter that folding moves has this image as its folded form,
whether it is upper-cased before or not.

* `foldCase_map_upperCase` and `foldCase_map_caseFold` are the two laws of letters.
* `normalize_eq_of_mapString_eq` says that texts which differ in case alone share a key. -/

namespace DescriptiveLinks

open Unicode

namespace Unicode

/-! ## Code points -/

/-- Whether the images of a run are its folded form, although folding upper-cases first. -/
def CaseRun.foldsToImages (r : CaseRun) : Bool :=
  foldAlong? r.step r.count [r.first] = some r.images

/-- **What is evaluated of the table**: every run folds to its images, as a whole or else code point
by code point. -/
theorem caseFold_foldsToImages :
    ∀ r ∈ caseFold.rows, r.foldsToImages || r.singles.all CaseRun.foldsToImages := by
  decide +kernel

/-- What case folding makes of a letter that it moves is the folded form of the letter. -/
theorem images_caseFold_eq (c : Nat) :
    caseFold.images c = [c] ∨ caseFold.images c = foldCodes [c] := by
  have hlaw : ∀ r : CaseRun, r.foldsToImages → ∀ i ≤ r.count,
      r.images.map (· + r.step * i) = foldCodes [r.first + r.step * i] := by
    intro r hr i hi
    exact (foldCodes_of_foldAlong? (of_decide_eq_true hr) hi).symm
  exact CaseMapping.forall_images (Q := fun c ds => ds = foldCodes [c]) hlaw
    caseFold_foldsToImages c

theorem CaseMapping.map_toNat_map {m : CaseMapping} (hm : m.Valid) (c : Char) :
    (m.map c).map Char.toNat = m.images c.toNat := by
  have htext : m.mapText [c] = m.map c := by simp
  rw [← htext, map_toNat_mapText hm, List.map_singleton, List.flatMap_singleton]

end Unicode

/-! ## Letters -/

theorem map_caseFold_eq (c : Char) : caseFold.map c = [c] ∨ caseFold.map c = foldCase [c] := by
  have hinj (cs ds : List Char) : cs.map Char.toNat = ds.map Char.toNat ↔ cs = ds :=
    List.map_inj_right fun _ _ => Char.toNat_inj.mp
  rw [← hinj, ← hinj, CaseMapping.map_toNat_map valid_caseFold, map_toNat_foldCase]
  exact images_caseFold_eq c.toNat

/-- A letter and its case folding fold alike. -/
theorem foldCase_map_caseFold (c : Char) : foldCase (caseFold.map c) = foldCase [c] := by
  rcases map_caseFold_eq c with hself | himages
  · rw [hself]
  · -- The image has been folded before, so folding it again changes nothing.
    rw [himages]
    exact foldCase_eq_self fun d hd => foldCase_singleton_of_mem hd

/-- A letter and its upper case fold alike. -/
theorem foldCase_map_upperCase (c : Char) : foldCase (upperCase.map c) = foldCase [c] := by
  have hupper : ∀ u ∈ upperCase.images c.toNat, upperCase.images u = [u] :=
    fun _ => images_upperCase_of_mem
  have hcodes : foldCodes (upperCase.images c.toNat) = foldCodes [c.toNat] := by
    rw [foldCodes, List.flatMap_congr hupper, List.flatMap_singleton', foldCodes,
      List.flatMap_singleton]
  rw [← List.map_inj_right fun _ _ => Char.toNat_inj.mp, map_toNat_foldCase, map_toNat_foldCase,
    CaseMapping.map_toNat_map valid_upperCase]
  exact hcodes

/-! ## Texts -/

/-- Folding is done letter by letter, so what holds for letters holds for texts. -/
theorem foldCase_mapText {m : CaseMapping} (h : ∀ c, foldCase (m.map c) = foldCase [c])
    (cs : List Char) : foldCase (m.mapText cs) = foldCase cs := by
  induction cs with
  | nil => rfl
  | cons c cs ih =>
    rw [CaseMapping.mapText_cons, foldCase_append, h, ih, ← foldCase_append, List.singleton_append]

/-- The image of a string under a case mapping. -/
def Unicode.CaseMapping.mapString (m : CaseMapping) (text : String) : String :=
  String.ofList (m.mapText text.toList)

/-- The key sees a text through its folded form only. -/
theorem normalize_mapString {m : CaseMapping} (h : ∀ c, foldCase (m.map c) = foldCase [c])
    (text : String) : normalize (m.mapString text) = normalize text := by
  have hkey : key (m.mapText text.toList) = key text.toList := by
    rw [key, foldCase_mapText h, ← key]
  rw [normalize, CaseMapping.mapString, String.toList_ofList, hkey, ← normalize]

/-- **Keys ignore case**: neither upper-casing nor case folding changes the key of a text. So texts
that become equal by one of them share a key. -/
theorem normalize_eq_of_mapString_eq :
    (∀ text, normalize (upperCase.mapString text) = normalize text ∧
      normalize (caseFold.mapString text) = normalize text) ∧
    ∀ s t, upperCase.mapString s = upperCase.mapString t ∨
      caseFold.mapString s = caseFold.mapString t → normalize s = normalize t := by
  have hupper := normalize_mapString foldCase_map_upperCase
  have hfold := normalize_mapString foldCase_map_caseFold
  refine ⟨fun text => ⟨hupper text, hfold text⟩, ?_⟩
  rintro s t (h | h)
  · rw [← hupper s, h, hupper t]
  · rw [← hfold s, h, hfold t]

/-- The sharp s is a double s in capitals, and the sign of kelvins is a folded k. -/
theorem normalize_eq_of_sharp_s_and_kelvin :
    (upperCase.mapString "Straße" = upperCase.mapString "STRASSE" ∧
      normalize "Straße" = normalize "STRASSE") ∧
    (caseFold.mapString "5 \u212A" = caseFold.mapString "5 k" ∧
      normalize "5 \u212A" = normalize "5 k") := by
  have hupper : upperCase.mapString "Straße" = upperCase.mapString "STRASSE" := by
    decide +kernel
  have hfold : caseFold.mapString "5 \u212A" = caseFold.mapString "5 k" := by
    decide +kernel
  exact ⟨⟨hupper, normalize_eq_of_mapString_eq.2 _ _ (.inl hupper)⟩,
    hfold, normalize_eq_of_mapString_eq.2 _ _ (.inr hfold)⟩

end DescriptiveLinks
