import Stepper.Kdl.Decoder
import Stepper.Proofs.Kdl.Conventions

/-!
The decoder that goes through a document from front to back keeps to the conventions: it finds just
what there is to be found, and comes to the number that the document yields.
-/
namespace Stepper.Kdl

variable {setting : Setting} {document : Document} {node : Node} {value : Value} {literal : Literal}
  {details : List Detail} {stated final : Bool} {n : UInt64}

theorem Converts.toUInt64_eq {result : Except Detail UInt64} (converts : Converts literal result) :
    literal.toUInt64 = result := by
  cases converts with
  | integer => rfl
  | other other =>
    cases literal with
    | integer integer => exact absurd rfl (other integer)
    | _ => rfl

theorem AnnotationFinds.annotationFaults_eq {typeName : Option String}
    (finds : AnnotationFinds typeName details) : annotationFaults typeName = details := by
  cases finds with
  | absent => rfl
  | right => rfl
  | wrong other => exact if_neg other

theorem ValueFinds.valueFaults_eq (finds : ValueFinds value details) :
    valueFaults value = details := by
  cases finds with
  | converted typed converts =>
    rw [valueFaults, typed.annotationFaults_eq, converts.toUInt64_eq]
    exact List.append_nil _
  | refused typed converts =>
    rw [valueFaults, typed.annotationFaults_eq, converts.toUInt64_eq]

theorem firstProperty?_eq_none (properties : node.properties = []) :
    firstProperty? node = none := by
  rw [firstProperty?, properties]
  rfl

theorem firstProperty?_eq_some {name : String} (held : name ∈ node.properties.map Prod.fst)
    (least : ∀ other ∈ node.properties.map Prod.fst, name ≤ other) :
    firstProperty? node = some name := by
  have found : (firstProperty? node).isSome = true := List.isSome_minOn?_of_mem held
  obtain ⟨first, chosen⟩ := Option.isSome_iff_exists.1 found
  have below : first ≤ name := by
    have lowest : (firstProperty? node).get found ≤ name :=
      List.apply_get_minOn?_le_of_mem (f := id) held
    simpa only [chosen, Option.get_some] using lowest
  have above : name ≤ first := least first (List.minOn?_mem chosen)
  rw [chosen, String.le_antisymm below above]

theorem NodeFinds.nodeFindings_eq (finds : NodeFinds setting node details final) :
    setting.nodeFindings node = ⟨details, final⟩ := by
  unfold Setting.nodeFindings
  cases finds with
  | missing arguments => rw [arguments]
  | argument arguments finds =>
    rw [arguments, ← finds.valueFaults_eq]
  | property arguments held least finds =>
    rw [arguments, firstProperty?_eq_some held least, ← finds.valueFaults_eq]
  | children arguments properties finds =>
    rw [arguments, firstProperty?_eq_none properties, ← finds.valueFaults_eq]

theorem Finds.faults_eq (finds : Finds setting stated document details) :
    setting.faults stated document = details := by
  induction finds with
  | nothing => rfl
  | unexpected name _ ih => rw [Setting.faults, if_neg name, ih]
  | duplicate name =>
    rw [Setting.faults, if_pos name]
    rfl
  | stopped name finds =>
    rw [Setting.faults, if_pos name, finds.nodeFindings_eq]
    rfl
  | stated name finds _ ih =>
    rw [Setting.faults, if_pos name, finds.nodeFindings_eq, ih]
    rfl

theorem getD_stated?_eq (finds : Finds setting false document [])
    (yields : Yields setting document n) :
    (setting.stated? document).getD setting.standard = n := by
  rcases finds.of_clean with rfl | ⟨node, value, once⟩
  · cases yields with
    | standard => rfl
    | stated held => cases held
  · obtain ⟨rfl, name, arguments, -⟩ := once
    have first : setting.stated? [node] = value.literal.toUInt64.toOption := by
      simp [Setting.stated?, name, arguments]
    cases yields with
    | standard silent => exact absurd name (silent node (List.mem_singleton_self node))
    | stated held _ argument converts =>
      cases List.mem_singleton.1 held
      cases argument.symm.trans arguments
      rw [first, converts.toUInt64_eq]
      rfl

theorem library_decodes : library.Decodes where
  accepts := by
    intro setting document n finds yields
    change setting.decode document = .ok n
    rw [Setting.decode, finds.faults_eq]
    exact congrArg Except.ok (getD_stated?_eq finds yields)
  refuses := by
    intro setting document details finds faulty
    change setting.decode document = .error _
    rw [Setting.decode, finds.faults_eq]
    cases details with
    | nil => exact absurd rfl faulty
    | cons first others => rfl

end Stepper.Kdl
