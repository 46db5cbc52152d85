import BracketQuery.Condition.Registry

namespace BracketQuery

inductive Expression
  | constant (value : Bool)
  | condition (c : Condition)
  | all (parts : List Expression)
  | any (parts : List Expression)

namespace Expression

instance : Inhabited Expression := ⟨constant true⟩

mutual

def holds (entity : Json.Value) : Expression → Bool
  | constant b => b
  | condition c => c.holds entity
  | all es => holdAll entity es
  | any es => holdAny entity es

def holdAll (entity : Json.Value) : List Expression → Bool
  | [] => true
  | e :: es => holds entity e && holdAll entity es

def holdAny (entity : Json.Value) : List Expression → Bool
  | [] => false
  | e :: es => holds entity e || holdAny entity es

end

mutual

def conditions : Expression → List Condition
  | constant _ => []
  | condition c => [c]
  | all es | any es => conditionsIn es

def conditionsIn : List Expression → List Condition
  | [] => []
  | e :: es => conditions e ++ conditionsIn es

end

mutual

def display : Expression → String
  | constant b => if b then "true" else "false"
  | condition c => c.display
  | all es => "(" ++ " AND ".intercalate (displays es) ++ ")"
  | any es => "(" ++ " OR ".intercalate (displays es) ++ ")"

def displays : List Expression → List String
  | [] => []
  | e :: es => display e :: displays es

end

def combine (conjunction : Conjunction) : List Expression → Expression
  | [] => constant true
  | [e] => e
  | es =>
    match conjunction with
    | .and => all es
    | .or => any es

def filter (e : Expression) (entities : List Json.Value) : List Json.Value :=
  entities.filter fun v => e.holds v

/-- What cannot be written as JSON satisfies no filter. -/
def holdsEncoded (e : Expression) (entity : Option Json.Value) : Bool := entity.any fun v => e.holds v

theorem holdAll_eq_all (entity : Json.Value) (es : List Expression) :
    holdAll entity es = es.all (holds entity) := by
  induction es with
  | nil => rfl
  | cons e es ih => simp [holdAll, ih]

theorem holdAny_eq_any (entity : Json.Value) (es : List Expression) :
    holdAny entity es = es.any (holds entity) := by
  induction es with
  | nil => rfl
  | cons e es ih => simp [holdAny, ih]

end Expression

mutual

def Node.compile (r : Registry) : Node → Except QueryError Expression
  | .leaf l => (r.build l).map .condition
  | .group h cs => (Node.compileAll r cs).map (.combine h.conjunction)

def Node.compileAll (r : Registry) : List Node → Except QueryError (List Expression)
  | [] => .ok []
  | c :: cs =>
    match Node.compile r c with
    | .error e => .error e
    | .ok e => (Node.compileAll r cs).map (e :: ·)

end

def Group.compile (r : Registry) (g : Group) : Except QueryError Expression := g.toNode.compile r

def compileFilter (r : Registry) : Option Group → Except QueryError Expression
  | none => .ok (.constant true)
  | some g => g.compile r

end BracketQuery
