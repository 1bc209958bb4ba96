/-
A list of nodes is read back from the text that it is kept as.

The fields of a node do not stand in the order of their names, so a node is no value that the reader
of values would give back.  But a record is read from the tree of its text, where the members still
stand as they were written, and of a legible text that tree is known.  So all that is left is to
follow the record through its fields.  Any text may stand in them; only the numbers are bounded, by
the sixteen bits that they have in a node.
-/
import Mathlib.Tactic.Common
import OnionSwarm.Node.Record
import OnionSwarm.Proofs.Json.Records

namespace OnionSwarm

open Json (Record written writtenItems Legible)
open Text.Decimal (last16)

/-- The parts of a version have sixteen bits. -/
structure Version.Fits (v : Version) : Prop where
  major : v.major ≤ last16
  minor : v.minor ≤ last16
  patch : v.patch ≤ last16

/-- The numbers of a node have sixteen bits. -/
structure Node.Fits (n : Node) : Prop where
  port : n.port ≤ last16
  version : n.version.Fits

instance (v : Version) : Decidable v.Fits :=
  decidable_of_iff (v.major ≤ last16 ∧ v.minor ≤ last16 ∧ v.patch ≤ last16)
    ⟨fun ⟨major, minor, patch⟩ => ⟨major, minor, patch⟩,
      fun fits => ⟨fits.major, fits.minor, fits.patch⟩⟩

instance (n : Node) : Decidable n.Fits :=
  decidable_of_iff (n.port ≤ last16 ∧ n.version.Fits)
    ⟨fun ⟨port, version⟩ => ⟨port, version⟩, fun fits => ⟨fits.port, fits.version⟩⟩

/-! ### Nodes -/

theorem fits_short {n : Nat} (small : n ≤ last16) : (Number.int n).Fits :=
  Json.fits_nat (Nat.le_trans small (by decide))

theorem Version.legible {v : Version} (fits : v.Fits) : Legible v.toJson :=
  ⟨fits_short fits.major, fits_short fits.minor, fits_short fits.patch, trivial⟩

theorem Node.legible {n : Node} (fits : n.Fits) : Legible n.toJson :=
  ⟨trivial, fits_short fits.port, ⟨trivial, trivial, trivial⟩, Version.legible fits.version,
    trivial⟩

theorem Version.ofWritten_written {v : Version} (fits : v.Fits) :
    Version.ofWritten (written v.toJson) = .ok v := by
  have parts : (written v.toJson).asList (Json.Written.asNat last16 "a part of a version")
      = .ok [v.major, v.minor, v.patch] := by
    rw [Version.toJson, written, Json.Written.asList]
    simp only [writtenItems, List.mapM_cons, List.mapM_nil, Json.asNat_written fits.major,
      Json.asNat_written fits.minor, Json.asNat_written fits.patch]
    rfl
  rw [Version.ofWritten, parts]
  rfl

theorem NodeKeys.holds_written (k : NodeKeys) :
    NodeKeys.record.Holds [("ed25519", written (.text k.ed25519)),
      ("x25519", written (.text k.x25519))] k :=
  Record.holds_of NodeKeys.mk |>.field rfl |>.field rfl

theorem Node.holds_written {n : Node} (fits : n.Fits) :
    Node.record.Holds [("address", written (.text n.address)), ("port", written (.nat n.port)),
      ("keys", written n.keys.toJson), ("version", written n.version.toJson)] n :=
  have keys := Record.read_written (NodeKeys.holds_written n.keys) (by simp) _
  Record.holds_of Node.mk |>.field rfl |>.field (Json.asNat_written fits.port _) |>.field keys
    |>.field (Version.ofWritten_written fits.version)

theorem Node.ofWritten_written {n : Node} (fits : n.Fits) :
    Node.ofWritten (written n.toJson) = .ok n :=
  Record.read_written (Node.holds_written fits) (by simp) _

/-- **A list of nodes whose numbers have sixteen bits is read back as it was written**, whatever
texts stand in the nodes. -/
theorem Node.readList_writeList {nodes : List Node} (fit : ∀ n ∈ nodes, n.Fits) :
    Node.readList (Node.writeList nodes) = .ok nodes := by
  have legible : Legible (.array (nodes.map Node.toJson)) :=
    Json.legibleItems_map fun n mem => Node.legible (fit n mem)
  rw [readList, writeList, Json.Written.readAs, Json.read_toBytes legible]
  simp only [written, Json.Written.asList,
    Json.mapM_writtenItems fun n mem => Node.ofWritten_written (fit n mem), Json.unlessStopped]

end OnionSwarm
