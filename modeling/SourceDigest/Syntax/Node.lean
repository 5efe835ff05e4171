import SourceDigest.Json.Decode

namespace SourceDigest.Syntax

open Json (Value Record Field Decoding)

structure Place where
  row : Nat
  column : Nat
  deriving DecidableEq, Repr, Inhabited

namespace Place

def record : Record Place :=
  ⟨"Position", [
    .of "row" true (Value.decodeNat (UInt64.size - 1) "usize") fun p n => { p with row := n },
    .of "column" true (Value.decodeNat (UInt64.size - 1) "usize") fun p n => { p with column := n }]⟩

def ofJson (v : Value) : Decoding Place := record.decode ⟨0, 0⟩ v

def toJson (p : Place) : Value := .object [("row", .ofNat p.row), ("column", .ofNat p.column)]

end Place

structure Node where
  kind : String
  text : String
  start : Place
  stop : Place
  isNamed : Bool
  field : Option String
  children : List Node
  deriving Repr, Inhabited

namespace Node

mutual

def preorder : Node → List Node
  | ⟨kind, text, start, stop, isNamed, field, children⟩ =>
    ⟨kind, text, start, stop, isNamed, field, children⟩ :: preorderAll children

def preorderAll : List Node → List Node
  | [] => []
  | n :: ns => preorder n ++ preorderAll ns

end

theorem preorder_eq (n : Node) : n.preorder = n :: preorderAll n.children := by
  cases n
  rw [preorder]

theorem preorderAll_eq (ns : List Node) : preorderAll ns = ns.flatMap preorder := by
  induction ns with
  | nil => rfl
  | cons n ns ih => rw [preorderAll, ih, List.flatMap_cons]

mutual

def size : Node → Nat
  | ⟨_, _, _, _, _, _, children⟩ => sizeAll children + 1

def sizeAll : List Node → Nat
  | [] => 0
  | n :: ns => size n + sizeAll ns

end

theorem size_eq (n : Node) : n.size = sizeAll n.children + 1 := by
  cases n
  rw [size]

theorem sizeAll_append (a b : List Node) : sizeAll (a ++ b) = sizeAll a + sizeAll b := by
  induction a with
  | nil => simp [sizeAll]
  | cons n a ih => simp [sizeAll, ih, Nat.add_assoc]

def pushAll (stack nodes : List Node) : List Node := nodes.foldl (fun stack n => n :: stack) stack

theorem pushAll_reverse (stack nodes : List Node) : pushAll stack nodes.reverse = nodes ++ stack := by
  simp [pushAll, List.foldl_reverse]

def unstack : Nat → List Node → List Node
  | 0, _ => []
  | _ + 1, [] => []
  | fuel + 1, n :: stack => n :: unstack fuel (pushAll stack n.children.reverse)

def descendants (n : Node) : List Node := unstack n.size [n]

def child? (n : Node) (field : String) : Option Node :=
  n.children.find? fun c => c.field == some field

def childrenUnder (n : Node) (field : String) : List Node :=
  n.children.filter fun c => c.field == some field

def namedChildren (n : Node) : List Node := n.children.filter (·.isNamed)

def searchQueue (field : String) : Nat → List Node → Option Node
  | 0, _ => none
  | _ + 1, [] => none
  | fuel + 1, n :: queue =>
    if n.field = some field then some n else searchQueue field fuel (queue ++ n.children)

def findField? (n : Node) (field : String) : Option Node :=
  searchQueue field n.size n.children

theorem searchQueue_eq_of_le (field : String) (queue : List Node) {a b : Nat}
    (ha : sizeAll queue ≤ a) (hb : sizeAll queue ≤ b) :
    searchQueue field a queue = searchQueue field b queue := by
  induction a generalizing b queue with
  | zero =>
    cases queue with
    | nil => cases b <;> rfl
    | cons n queue =>
      rw [sizeAll, size_eq] at ha
      omega
  | succ a ih =>
    cases queue with
    | nil => cases b <;> rfl
    | cons n queue =>
      rw [sizeAll, size_eq] at ha hb
      cases b with
      | zero => omega
      | succ b =>
        simp only [searchQueue]
        split
        · rfl
        · exact ih _ (by rw [sizeAll_append]; omega) (by rw [sizeAll_append]; omega)

def emptyNode : Node := ⟨"", "", ⟨0, 0⟩, ⟨0, 0⟩, false, none, []⟩

def record (child : Value → Decoding Node) : Record Node :=
  ⟨"GenericAstNode", [
    .of "type" true Value.decodeText fun n s => { n with kind := s },
    .of "text" true Value.decodeText fun n s => { n with text := s },
    .of "start_position" true Place.ofJson fun n p => { n with start := p },
    .of "end_position" true Place.ofJson fun n p => { n with stop := p },
    .of "is_named" true Value.decodeBool fun n b => { n with isNamed := b },
    .of "field_name" false (Value.decodeOption Value.decodeText) fun n f => { n with field := f },
    .of "children" false (Value.decodeList child) fun n l => { n with children := l }]⟩

def decodeTo : Nat → Value → Decoding Node
  | 0, v => .error (.type v.found "struct GenericAstNode")
  | depth + 1, v => (record (decodeTo depth)).decode emptyNode v

def ofJson (v : Value) : Decoding Node := decodeTo v.height v

mutual

def toJson : Node → Value
  | ⟨kind, text, start, stop, isNamed, field, children⟩ =>
    .object ([("type", .string kind), ("text", .string text),
        ("start_position", start.toJson), ("end_position", stop.toJson),
        ("is_named", .bool isNamed)]
      ++ Json.memberIfSome "field_name" .string field
      ++ [("children", .array (toJsonAll children))])

def toJsonAll : List Node → List Value
  | [] => []
  | n :: ns => toJson n :: toJsonAll ns

end

end Node

end SourceDigest.Syntax
