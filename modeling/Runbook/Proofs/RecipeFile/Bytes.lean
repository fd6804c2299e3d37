import Runbook.Proofs.RecipeFile.Steps
import Runbook.Proofs.Text.Lines
import Runbook.Proofs.Text.Utf8

set_option autoImplicit false

/-! # Recipe files and their texts

A recipe file is read from its bytes, with line ends folded to line feeds; a text that comes from no
file is read as it is. Both readings see the same lines, and nothing but the lines counts. So a file
is loaded exactly if its text is, as the same recipes and settings, and refused with the same fault at
the same line; a message about a line begins with another place.
-/

namespace Runbook

open Text

/-- Whether a path, which is not too long to be followed, leads to a file with these bytes. -/
structure FileTree.LeadsTo (tree : FileTree) (cwd file : Path) (bytes : List UInt8) : Prop where
  followed : tree.isOverlong cwd file = false
  found : tree.file? cwd file = some bytes

/-- The place that a message about a line begins with. -/
def placeText (source : Option Path) (line : Nat) : String :=
  match source with
  | some file => file.toString ++ ":" ++ toString line
  | none => "line " ++ toString line

theorem RegistryFault.message_atLine (source : Option Path) (line : Nat) (fault : LineFault) :
    (malformed source (.atLine line fault)).message =
      placeText source line ++ ": " ++ fault.message := by
  cases source <;> rfl

namespace Registry

variable {tree : FileTree} {cwd file : Path} {t : Text}

/-- Line ends do not count. -/
theorem ofText_foldLineEnds (source : Option Path) (t : Text) :
    ofText source (foldLineEnds t) = ofText source t := by
  unfold ofText readRecipeFile
  rw [lines_foldLineEnds]

/-- A file is read as its text. -/
theorem loadFile_of_leadsTo (h : tree.LeadsTo cwd file (Utf8.encode t)) :
    loadFile tree cwd file = ofText (some (Path.resolve cwd file)) t := by
  unfold loadFile
  rw [h.followed, if_neg (by simp), h.found]
  dsimp only
  rw [Utf8.decode_encode]
  exact ofText_foldLineEnds _ t

/-- The file that a text comes from is noted in the registry, or in the fault. -/
theorem ofText_eq (source : Option Path) (t : Text) :
    (∃ recipes settings, load t = .ok { recipes, settings } ∧
      ofText source t = .ok { recipes, settings, source }) ∨
    ∃ f, load t = .error (.malformed none f) ∧ ofText source t = .error (.malformed source f) := by
  unfold load ofText
  cases readRecipeFile t with
  | error f => exact Or.inr ⟨f, rfl, rfl⟩
  | ok read => exact Or.inl ⟨read.1, read.2, rfl, rfl⟩

/-- **A file is loaded as its text is.** One is loaded exactly if the other is, and then as the same
recipes and settings; one is refused exactly if the other is, and then for the same reason, at the same
lines and with the same exit status. The message about a line differs in the place that it begins with;
the message about a recipe that is defined twice does not differ. -/
theorem loadFile_iff_load (h : tree.LeadsTo cwd file (Utf8.encode t)) :
    (∀ reg, loadFile tree cwd file = .ok reg ↔
      reg.source = some (Path.resolve cwd file) ∧ load t = .ok { reg with source := none }) ∧
    (∀ fault, loadFile tree cwd file = .error fault ↔
      ∃ f, fault = .malformed (some (Path.resolve cwd file)) f ∧
        load t = .error (.malformed none f)) ∧
    ∀ f, let ofFile := RegistryFault.malformed (some (Path.resolve cwd file)) f
      let ofText := RegistryFault.malformed none f
      ofFile.exitCode? = ofText.exitCode? ∧
      match f with
      | .atLine line fault =>
          ofFile.message = placeText (some (Path.resolve cwd file)) line ++ ": " ++ fault.message ∧
          ofText.message = placeText none line ++ ": " ++ fault.message
      | .repeatedRecipe _ _ _ => ofFile.message = ofText.message := by
  rw [loadFile_of_leadsTo h]
  refine ⟨fun reg => ?_, fun fault => ?_, fun f => ?_⟩
  · rcases ofText_eq (some (Path.resolve cwd file)) t with
      ⟨recipes, settings, hload, hfile⟩ | ⟨f, hload, hfile⟩
    · rw [hload, hfile]
      cases reg
      simp only [Except.ok.injEq, Registry.mk.injEq]
      tauto
    · rw [hload, hfile]
      simp
  · rcases ofText_eq (some (Path.resolve cwd file)) t with
      ⟨recipes, settings, hload, hfile⟩ | ⟨f, hload, hfile⟩
    · rw [hload, hfile]
      simp
    · rw [hload, hfile]
      simp [eq_comm]
  · cases f with
    | atLine line fault =>
        exact ⟨rfl, RegistryFault.message_atLine _ _ _, RegistryFault.message_atLine _ _ _⟩
    | repeatedRecipe name first second => exact ⟨rfl, rfl⟩

/-- Breaks of all kinds: a carriage return with its line feed ends the header, one by itself ends the
first line of the body, and a line separator begins the line with the placeholder that is not
declared. -/
theorem loadFile_iff_load_breaks :
    let good := "a:\r\n\tone\r\ttwo\u2028b:\n".toList
    let bad := "a:\r\n\tone\r\t{{x}}\u2028b:\n".toList
    let tree := (FileTree.empty.addFile ["good".toList] (Utf8.encode good)).addFile
      ["bad".toList] (Utf8.encode bad)
    let root : Path := ⟨1, []⟩
    let reg : Registry := {
      recipes := [{ name := ['a'], body := ["one".toList, "two".toList], line := 1 },
        { name := ['b'], line := 4 }]
      settings := {} }
    let fault := LoadFault.atLine 3 (.undeclared ['a'] ['x'])
    (tree.LeadsTo root ⟨0, ["good".toList]⟩ (Utf8.encode good) ∧
      tree.LeadsTo root ⟨0, ["bad".toList]⟩ (Utf8.encode bad)) ∧
    (load good = .ok reg ∧ loadFile tree root ⟨0, ["good".toList]⟩ =
      .ok { reg with source := some ⟨1, ["good".toList]⟩ }) ∧
    load bad = .error (.malformed none fault) ∧ loadFile tree root ⟨0, ["bad".toList]⟩ =
      .error (.malformed (some ⟨1, ["bad".toList]⟩) fault) := by
  intro good bad tree root reg fault
  have hgood : tree.LeadsTo root ⟨0, ["good".toList]⟩ (Utf8.encode good) :=
    ⟨by decide +kernel, by decide +kernel⟩
  have hbad : tree.LeadsTo root ⟨0, ["bad".toList]⟩ (Utf8.encode bad) :=
    ⟨by decide +kernel, by decide +kernel⟩
  have hload : load good = .ok reg := by decide +kernel
  have hrefused : load bad = .error (.malformed none fault) := by decide +kernel
  refine ⟨⟨hgood, hbad⟩, ⟨hload, ?_⟩, hrefused, ?_⟩
  · exact ((loadFile_iff_load hgood).1 _).mpr ⟨by decide +kernel, hload⟩
  · exact ((loadFile_iff_load hbad).2.1 _).mpr ⟨fault, by decide +kernel, hrefused⟩

end Registry

end Runbook
