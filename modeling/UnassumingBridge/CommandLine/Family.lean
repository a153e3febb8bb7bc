import UnassumingBridge.Effects.Tool
import UnassumingBridge.Support.Assignments

/-! # The controller's reply

Before its first request the tool asks for the id of the family. The reply's attributes
are stored by type in a table that was laid out for the types of the headers.
-/

namespace UnassumingBridge

open Support Assignments

variable {ctrlAttrMax : Nat} {attrs : List CtrlAttr}

/-- The stores that `parse_attrs` makes: the index and what is written there. -/
def ctrlStores (attrs : List CtrlAttr) : List (Nat × BitVec 16) := attrs.map fun attr => (attr.type.toNat, attr.u16)

/-- Every store is made inside the table. -/
def StoresInside (ctrlAttrMax : Nat) (attrs : List CtrlAttr) : Prop :=
  ∀ store ∈ ctrlStores attrs, store.1 < ctrlAttrMax + 1

/-- The id in the last attribute of the type `CTRL_ATTR_FAMILY_ID`. -/
def familyOf (attrs : List CtrlAttr) : Option (BitVec 16) := last (ctrlStores attrs) ctrlAttrFamilyId

theorem inside_iff : StoresInside ctrlAttrMax attrs ↔ ∀ attr ∈ attrs, attr.type.toNat ≤ ctrlAttrMax := by
  simp only [StoresInside, ctrlStores, List.forall_mem_map, Nat.lt_add_one_iff]

theorem inside_cons {attr : CtrlAttr} :
    StoresInside ctrlAttrMax (attr :: attrs) ↔ attr.type.toNat ≤ ctrlAttrMax ∧ StoresInside ctrlAttrMax attrs := by
  rw [inside_iff, inside_iff, List.forall_mem_cons]

/-- The table afterwards, unless a store goes past its end. -/
theorem parseAttrs_inside (inside : StoresInside ctrlAttrMax attrs) (tb : Nat → Option (BitVec 16)) :
    parseAttrs ctrlAttrMax attrs tb = .ok (after (ctrlStores attrs) tb) := by
  induction attrs generalizing tb with
  | nil => rfl
  | cons attr rest ih =>
      obtain ⟨here, later⟩ := inside_cons.mp inside
      have stores : ctrlStores (attr :: rest) = (attr.type.toNat, attr.u16) :: ctrlStores rest := rfl
      rw [parseAttrs, if_pos here, ih later, stores, after_cons]

theorem parseAttrs_outside (outside : ¬ StoresInside ctrlAttrMax attrs) (tb : Nat → Option (BitVec 16)) :
    parseAttrs ctrlAttrMax attrs tb = .error .stackOverrun := by
  induction attrs generalizing tb with
  | nil =>
      apply absurd _ outside
      simp [StoresInside, ctrlStores]
  | cons attr rest ih =>
      rw [inside_cons] at outside
      unfold parseAttrs
      split
      · rename_i here
        exact ih (fun later => outside ⟨here, later⟩) _
      · rfl

theorem familyIdCb_inside (inside : StoresInside ctrlAttrMax attrs) (id : Option (BitVec 16)) :
    familyIdCb ctrlAttrMax id attrs = .ok (if (familyOf attrs).isSome then (familyOf attrs, 1) else (id, -1)) := by
  have table : after (ctrlStores attrs) (fun _ => none) ctrlAttrFamilyId = familyOf attrs := by
    simp only [after, Option.or_none, familyOf]
  unfold familyIdCb
  rw [parseAttrs_inside inside]
  simp only [bind, Except.bind, table]
  cases familyOf attrs with
  | none => rfl
  | some id => rfl

theorem getFamily_replied {env : ToolEnv} {rest : List Reply} (sends : env.sendFails .getFamily = false)
    (replied : env.replies .getFamily = .message attrs :: .ack :: rest) (inside : StoresInside env.ctrlAttrMax attrs) :
    (getFamily env).res = .ok (((familyOf attrs).map fun id => (id.toNat : Int)).getD (-1)) := by
  have query : (msgQuery env .getFamily (familyIdCb env.ctrlAttrMax) none).res =
      .ok (if (familyOf attrs).isSome then (familyOf attrs, 0) else (none, -1)) := by
    simp only [msgQuery, msgSend, sends, replied, msgRecv, familyIdCb_inside inside]
    cases familyOf attrs with
    | none => rfl
    | some id => rfl
  unfold getFamily
  rw [Logged.bind_ok query]
  cases familyOf attrs with
  | none => rfl
  | some id => rfl

/-- No store goes past the end of the table, and the id that comes of the reply is that of the
    last attribute that has one; without one there is an error. -/
structure ReplyParsed (ctrlAttrMax : Nat) (attrs : List CtrlAttr) : Prop where
  table : ∀ tb, parseAttrs ctrlAttrMax attrs tb = .ok fun k => (last (ctrlStores attrs) k).or (tb k)
  callback :
    ∀ id, familyIdCb ctrlAttrMax id attrs = .ok (if (familyOf attrs).isSome then (familyOf attrs, 1) else (id, -1))
  family : ∀ env rest, env.ctrlAttrMax = ctrlAttrMax → env.sendFails .getFamily = false →
    env.replies .getFamily = .message attrs :: .ack :: rest →
      (getFamily env).res = .ok (((familyOf attrs).map fun id => (id.toNat : Int)).getD (-1))

/-- The reply is parsed as it should be if, and only if, no attribute is newer than the headers. -/
theorem reply_parsed_iff : ReplyParsed ctrlAttrMax attrs ↔ ∀ attr ∈ attrs, attr.type.toNat ≤ ctrlAttrMax := by
  rw [← inside_iff]
  constructor
  · intro parsed
    by_contra outside
    have table := parsed.table fun _ => none
    rw [parseAttrs_outside outside] at table
    cases table
  · intro inside
    refine ⟨parseAttrs_inside inside, familyIdCb_inside inside, ?_⟩
    intro env rest headers sends replied
    exact getFamily_replied sends replied (by rwa [headers])

/-- The kernel sends an attribute that is newer than the headers. -/
theorem reply_overruns : ¬ ∀ ctrlAttrMax attrs, ReplyParsed ctrlAttrMax attrs := by
  intro always
  have callback := (always 10 [⟨1, 20⟩, ⟨11, 0⟩]).callback none
  cases callback

end UnassumingBridge
