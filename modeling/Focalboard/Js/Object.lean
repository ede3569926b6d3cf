import Focalboard.Js.Text

/-!
# Values and plain objects

The CSV importer keys a plain object `{}` by column header and looks each template name up in it,
and a card keeps its property values in another plain object. Such an object answers a key it
does not own from `Object.prototype`, so `row['constructor']` is a function where a dictionary
would answer `undefined`. An assignment runs in strict mode code (the importer is a class
member): `__proto__` goes to the prototype's setter, which ignores a string and installs an
object as the prototype; through an installed function, `length`, `name`, `caller` and
`arguments` (and `prototype` when the function is `Object`) cannot be assigned, and the
assignment throws a `TypeError`. Every lookup and assignment of the CSV code goes through
`JsObject.get`, `JsObject.set` (a string) and `JsObject.assign` (any value).

The AI code reads strings that may be `undefined` with `||`; `truthyText`, `jsOr` and `orText`
are those reads.
-/

namespace Focalboard.Js

/-- A value read from or written to a card property or a CSV row. -/
inductive JsValue where
  | undefined
  | str (s : List Char)
  | strs (ss : List (List Char))
  /-- The member `Object.prototype[key]` every plain object inherits: a function, or for
  `__proto__` the prototype object itself. -/
  | inherited (key : List Char)
  deriving DecidableEq, Repr

namespace JsValue

/-- JavaScript truthiness; of these values only `undefined` and `''` are falsy. -/
def truthy : JsValue → Bool
  | undefined => false
  | str s => !s.isEmpty
  | strs _ => true
  | inherited _ => true

/-- `a || b`. -/
def or (a b : JsValue) : JsValue := if a.truthy then a else b

/-- Whether the value is an object: an array or a member of `Object.prototype`. -/
def isObject : JsValue → Bool
  | strs _ => true
  | inherited _ => true
  | _ => false

@[simp] theorem truthy_str (s : List Char) : (str s).truthy = !s.isEmpty := rfl

@[simp] theorem or_str_of_ne_nil {s : List Char} (h : s ≠ []) (b : JsValue) : (str s).or b = str s := by
  simp [or, h]

@[simp] theorem or_str_nil (b : JsValue) : (str []).or b = b := rfl

@[simp] theorem or_undefined (b : JsValue) : undefined.or b = b := rfl

def text : JsValue → List Char
  | str s => s
  | _ => []

@[simp] theorem text_str (s : List Char) : (str s).text = s := rfl

end JsValue

/-- Whether a string or `undefined` is truthy. -/
def truthyText : Option (List Char) → Bool
  | some s => !s.isEmpty
  | none => false

/-- `a || b` for a string or `undefined`. -/
def jsOr (a b : Option (List Char)) : Option (List Char) := if truthyText a then a else b

@[simp] theorem jsOr_none (b : Option (List Char)) : jsOr none b = b := rfl

/-- `a || fallback` for a string or `undefined` and a string. -/
def orText (a : Option (List Char)) (fallback : List Char) : List Char :=
  (jsOr a (some fallback)).getD fallback

@[simp] theorem orText_some_nil (s : List Char) : orText (some s) [] = s := by
  cases s <;> rfl

theorem orText_nil : ∀ a : Option (List Char), orText a [] = a.getD []
  | none => rfl
  | some s => orText_some_nil s

theorem orText_ne_nil (a : Option (List Char)) {fallback : List Char} (h : fallback ≠ []) :
    orText a fallback ≠ [] := by
  unfold orText jsOr
  split
  · rename_i ht
    cases a with
    | none => cases ht
    | some s => simpa [truthyText] using ht
  · exact h

theorem jsOr_some_of_ne_nil {s : List Char} (h : s ≠ []) (b : Option (List Char)) :
    jsOr (some s) b = some s := by
  simp [jsOr, truthyText, h]

/-- A thrown error or the reason of a rejected promise, by the text `${e}` gives. -/
structure JsError where
  text : List Char
  deriving DecidableEq, Repr

/-- The `TypeError` of an assignment the prototype chain forbids, by its name; the message after
it differs between engines. -/
def typeError : JsError := ⟨"TypeError".toList⟩

/-- The keys `Object.prototype` defines, which every plain object inherits. -/
def objectPrototypeKeys : List (List Char) :=
  ["constructor", "__defineGetter__", "__defineSetter__", "hasOwnProperty", "__lookupGetter__",
    "__lookupSetter__", "isPrototypeOf", "propertyIsEnumerable", "toString", "valueOf",
    "__proto__", "toLocaleString"].map String.toList

/-- The key whose assignment goes to the prototype setter. -/
def protoKey : List Char := "__proto__".toList

theorem protoKey_mem : protoKey ∈ objectPrototypeKeys := by decide

/-- The keys a function object and `Function.prototype` hold as properties an assignment cannot
write: non-writable `length` and `name`, and the `caller` and `arguments` accessors whose setter
throws. `Object` also has a non-writable `prototype`. -/
def readOnlyKeys (function : List Char) : List (List Char) :=
  ["length", "name", "caller", "arguments"].map String.toList ++
    if function = "constructor".toList then ["prototype".toList] else []

/-- Whether an assignment of `key` to an object whose prototype is `proto` (none for
`Object.prototype`) and that does not own `key` throws. Of the objects a `__proto__`
assignment can install, the members of `Object.prototype` are functions, and an array has
no such key. -/
def blocksAssignment : Option JsValue → List Char → Bool
  | some (.inherited function), key => decide (function ≠ protoKey ∧ key ∈ readOnlyKeys function)
  | _, _ => false

/-- A plain object, by its own keys in insertion order. -/
structure JsObject where
  own : List (List Char × JsValue)
  deriving DecidableEq, Repr

namespace JsObject

def empty : JsObject := ⟨[]⟩

/-- What `Object.prototype` answers for a key. -/
def inheritedValue (key : List Char) : JsValue :=
  if key ∈ objectPrototypeKeys then .inherited key else .undefined

/-- `o[key]` on an object whose prototype is `Object.prototype`: the own value, else the
inherited one. -/
def get (o : JsObject) (key : List Char) : JsValue :=
  (o.own.lookup key).getD (inheritedValue key)

/-- Replace the value of an own key in place, or add the key last. -/
def upsert (key : List Char) (v : JsValue) :
    List (List Char × JsValue) → List (List Char × JsValue)
  | [] => [(key, v)]
  | (k, w) :: rest => if k = key then (key, v) :: rest else (k, w) :: upsert key v rest

/-- `o[key] = s` for a string `s`, on an object whose prototype is `Object.prototype`: the
`__proto__` setter ignores a string, and any other key becomes or stays an own key. -/
def set (o : JsObject) (key s : List Char) : JsObject :=
  if key ∉ o.own.map Prod.fst ∧ key = protoKey then o else ⟨upsert key (.str s) o.own⟩

/-- `o[key] = v` in strict mode code, on an object with own keys `o` and prototype `proto`
(none for `Object.prototype`): the own keys and the prototype after it, or the `TypeError` it
throws. An own key is written in place. `__proto__` goes to the setter, which installs an
object (none again for `Object.prototype` itself) and ignores anything else. Another key
becomes an own key unless the prototype holds it read-only. -/
def assign (o : JsObject) (proto : Option JsValue) (key : List Char) (v : JsValue) :
    Except JsError (JsObject × Option JsValue) :=
  if key ∈ o.own.map Prod.fst then .ok (⟨upsert key v o.own⟩, proto)
  else if key = protoKey then
    .ok (o, if v.isObject then (if v = .inherited protoKey then none else some v) else proto)
  else if blocksAssignment proto key then .error typeError
  else .ok (⟨upsert key v o.own⟩, proto)

/-- The only error an assignment throws is the `TypeError`. -/
theorem assign_error {o : JsObject} {proto : Option JsValue} {key : List Char} {v : JsValue}
    {e : JsError} (h : o.assign proto key v = .error e) : e = typeError := by
  unfold assign at h
  split_ifs at h
  cases h
  rfl

/-- A string assignment is `assign` under `Object.prototype`: it never throws. -/
theorem assign_str (o : JsObject) (key s : List Char) :
    o.assign none key (.str s) = .ok (o.set key s, none) := by
  unfold assign set
  by_cases hk : key ∈ o.own.map Prod.fst
  · simp [hk]
  · by_cases hp : key = protoKey
    · subst hp
      simp [hk, JsValue.isObject]
    · simp [hk, hp, blocksAssignment]

theorem assign_none_of_ne (o : JsObject) {key : List Char} (hk : key ≠ protoKey) (v : JsValue) :
    o.assign none key v = .ok (⟨upsert key v o.own⟩, none) := by
  unfold assign
  by_cases hm : key ∈ o.own.map Prod.fst
  · rw [if_pos hm]
  · rw [if_neg hm, if_neg hk]
    rfl

private theorem lookup_cons_of_ne {k key : List Char} (h : k ≠ key) (w : JsValue)
    (rest : List (List Char × JsValue)) : ((key, w) :: rest).lookup k = rest.lookup k := by
  rw [List.lookup_cons, beq_false_of_ne h]

theorem lookup_upsert_self (key : List Char) (v : JsValue) :
    ∀ l : List (List Char × JsValue), (upsert key v l).lookup key = some v
  | [] => List.lookup_cons_self
  | (k, w) :: rest => by
    by_cases h : k = key
    · simp [upsert, h]
    · rw [upsert, if_neg h, lookup_cons_of_ne (Ne.symm h), lookup_upsert_self key v rest]

theorem lookup_upsert_ne {k key : List Char} (h : k ≠ key) (v : JsValue) :
    ∀ l : List (List Char × JsValue), (upsert key v l).lookup k = l.lookup k
  | [] => lookup_cons_of_ne h v []
  | (k', w) :: rest => by
    by_cases h' : k' = key
    · subst h'; rw [upsert, if_pos rfl, lookup_cons_of_ne h, lookup_cons_of_ne h]
    · rw [upsert, if_neg h']
      by_cases hk : k = k'
      · subst hk; simp
      · rw [lookup_cons_of_ne hk, lookup_cons_of_ne hk, lookup_upsert_ne h v rest]

theorem upsert_of_not_mem {key : List Char} (v : JsValue) :
    ∀ {l : List (List Char × JsValue)}, key ∉ l.map Prod.fst → upsert key v l = l ++ [(key, v)]
  | [], _ => rfl
  | (k, w) :: rest, h => by
    simp only [List.map_cons, List.mem_cons, not_or] at h
    rw [upsert, if_neg (Ne.symm h.1), upsert_of_not_mem v h.2, List.cons_append]

theorem inheritedValue_of_not_mem {key : List Char} (h : key ∉ objectPrototypeKeys) :
    inheritedValue key = .undefined := if_neg h

@[simp] theorem get_empty (key : List Char) : empty.get key = inheritedValue key := rfl

@[simp] theorem get_upsert_self (o : JsObject) (key : List Char) (v : JsValue) :
    (⟨upsert key v o.own⟩ : JsObject).get key = v := by
  simp [get, lookup_upsert_self]

theorem get_upsert_ne (o : JsObject) {k key : List Char} (h : k ≠ key) (v : JsValue) :
    (⟨upsert key v o.own⟩ : JsObject).get k = o.get k := by
  simp [get, lookup_upsert_ne h]

theorem get_set_self (o : JsObject) {key : List Char} (h : key ≠ protoKey) (s : List Char) :
    (o.set key s).get key = .str s := by
  rw [set, if_neg fun hc => h hc.2, get_upsert_self]

theorem get_set_ne (o : JsObject) {k key : List Char} (h : k ≠ key) (s : List Char) :
    (o.set key s).get k = o.get k := by
  unfold set
  split
  · rfl
  · exact get_upsert_ne o h _

end JsObject

end Focalboard.Js
