/-
Onion paths.

A path is a list of hops, at least one, no two of them the same node.  Its first hop is the guard,
the only one that sees the client.
-/
import OnionSwarm.Directory.Failure

namespace OnionSwarm

/-- Why there is no path. -/
inductive PathFailure where
  | empty
  /-- The hop that an earlier hop already was. -/
  | repeatedHop (hop : Node)
  | directory (cause : DirectoryFailure)
  deriving DecidableEq, Repr

/-- The wording of a failure. -/
def PathFailure.message : PathFailure → String
  | .empty => "Path must contain at least one hop"
  | .repeatedHop hop => "Node " ++ hop.url ++ " appears twice in path"
  | .directory cause => cause.message

/-- No two nodes of the list are the same. -/
def Distinct (nodes : List Node) : Prop := (nodes.map Node.site).Nodup

instance (nodes : List Node) : Decidable (Distinct nodes) :=
  inferInstanceAs (Decidable (nodes.map Node.site).Nodup)

/-- The hops of an onion request, the guard first. -/
structure Path where
  hops : List Node
  nonempty : hops ≠ []
  distinct : Distinct hops

namespace Path

/-- The first node that stands in the list a second time, or already among `seen`. -/
def repeated? (seen : List Node) : List Node → Option Node
  | [] => none
  | n :: rest => if n.isIn seen then some n else repeated? (n :: seen) rest

/-- A list without a repeated node is distinct, and apart from the nodes seen before. -/
theorem repeated?_eq_none {seen nodes : List Node} (h : repeated? seen nodes = none) :
    Distinct nodes ∧ ∀ n ∈ nodes, n.isIn seen = false := by
  induction nodes generalizing seen with
  | nil => exact ⟨List.nodup_nil, by simp⟩
  | cons n rest ih =>
    simp only [repeated?] at h
    split at h
    · simp at h
    · rename_i fresh
      obtain ⟨distinct, apart⟩ := ih h
      refine ⟨?_, ?_⟩
      · refine List.nodup_cons.2 ⟨?_, distinct⟩
        intro mem
        obtain ⟨m, mem, eq⟩ := List.mem_map.1 mem
        have := apart m mem
        simp [Node.isIn, Node.same, eq] at this
      · intro m mem
        rcases List.mem_cons.1 mem with rfl | mem
        · simpa using fresh
        · have := apart m mem
          simp only [Node.isIn, List.any_cons, Bool.or_eq_false_iff] at this ⊢
          exact this.2

/-- The path with these hops. -/
def ofHops (hops : List Node) : Except PathFailure Path :=
  if nonempty : hops = [] then .error .empty
  else
    match distinct : repeated? [] hops with
    | some hop => .error (.repeatedHop hop)
    | none => .ok ⟨hops, nonempty, (repeated?_eq_none distinct).1⟩

/-- The first hop. -/
def guardNode (p : Path) : Node := p.hops.head p.nonempty

/-- How many hops the path has. -/
def length (p : Path) : Nat := p.hops.length

/-- Is the node a hop? -/
def contains (p : Path) (n : Node) : Bool := n.isIn p.hops

/-- The hop with this Ed25519 key. -/
def hopWithKey? (p : Path) (key : String) : Option Node := p.hops.find? (·.key == key)

/-- The hops with arrows between them. -/
def render (p : Path) : String := " -> ".intercalate (p.hops.map Node.url)

end Path
end OnionSwarm
