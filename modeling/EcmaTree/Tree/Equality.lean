import EcmaTree.Tree.Value

/-!
# Equality of values

Values are equal by structure. Numbers and truth values compare by numerical value, a truth value
being zero or one; mappings do not compare the order of their entries; different kinds of
sequences, tokens and nodes are never equal. Locations take part.
-/

namespace EcmaTree.Value

/-- The number that a value counts as in comparisons. -/
def asNumber? : Value → Option Number
  | bool b => some (.int (if b then 1 else 0))
  | number x => some x
  | _ => Option.none

/-- Whether the value counts as the number. -/
def countsAs (v : Value) (x : Number) : Bool :=
  match v.asNumber? with
  | some y => x.equal y
  | Option.none => false

mutual

/-- Equality of values. -/
def equal (v w : Value) : Bool :=
  match v with
  | none => w.isNone
  | bool b => w.countsAs (.int (if b then 1 else 0))
  | number x => w.countsAs x
  | text s =>
    match w with
    | text t => s = t
    | _ => false
  | list xs =>
    match w with
    | list ys => equalAll xs ys
    | _ => false
  | tuple xs =>
    match w with
    | tuple ys => equalAll xs ys
    | _ => false
  | mapping es =>
    match w with
    | mapping fs => es.length = fs.length && covered fs es
    | _ => false
  | tokenKind k =>
    match w with
    | tokenKind k' => k = k'
    | _ => false
  | token k l =>
    match w with
    | token k' l' => k = k' && l.equal l'
    | _ => false
  | identifier n l =>
    match w with
    | identifier n' l' => n.equal n' && l.equal l'
    | _ => false
  | literal k s l =>
    match w with
    | literal k' s' l' => k = k' && s.equal s' && l.equal l'
    | _ => false
  | span file line column endLine endColumn raw =>
    match w with
    | span file' line' column' endLine' endColumn' raw' =>
      file.equal file' && line.equal line' && column.equal column' && endLine.equal endLine'
        && endColumn.equal endColumn' && raw.equal raw'
    | _ => false
  | place s as =>
    match w with
    | place t bs => s = t && equalAttributes as bs
    | _ => false
  | node p xs l =>
    match w with
    | node q ys l' => p = q && equalAll xs ys && l.equal l'
    | _ => false
termination_by structural v

/-- Equality of sequences, member by member. -/
def equalAll : List Value → List Value → Bool
  | [], [] => true
  | x :: xs, y :: ys => x.equal y && equalAll xs ys
  | _, _ => false
termination_by structural xs => xs

/-- Whether every entry of the second list has an equal one in the first. -/
def covered (fs : List (Value × Value)) : List (Value × Value) → Bool
  | [] => true
  | (k, v) :: es => fs.any (fun f => k.equal f.1 && v.equal f.2) && covered fs es
termination_by structural es => es

/-- Equality of the attributes of two places. -/
def equalAttributes : List (PlaceAttribute × Value) → List (PlaceAttribute × Value) → Bool
  | [], [] => true
  | (a, v) :: as, (b, w) :: bs => a = b && v.equal w && equalAttributes as bs
  | _, _ => false
termination_by structural as => as

end

end EcmaTree.Value
