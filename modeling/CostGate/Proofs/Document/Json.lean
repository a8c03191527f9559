import CostGate.Proofs.Document.Scalar

/-!
# Values in JSON

The indented text of a value is read back as that value. The induction is on the value; what it
says of a list or of a record is carried by one lemma on parts that are joined between brackets.
-/
namespace CostGate.Document.Json

open Document (Value)

/-- What data formats write for a double is read as that double. -/
def ReadsBack (x : Float) : Prop := parse? (Number.data x) = some (.real x)

def real? : Value → Option Float
  | .real x => some x
  | _ => none

theorem readsBack_iff {x : Float} : ReadsBack x ↔ (parse? (Number.data x)).bind real? = some x := by
  rw [ReadsBack]
  constructor
  · intro h
    rw [h]
    rfl
  · intro h
    obtain ⟨v, hv, hreal⟩ := Option.bind_eq_some_iff.1 h
    rw [hv]
    cases v <;> cases hreal
    rfl

instance (x : Float) : Decidable (ReadsBack x) := decidable_of_iff' _ readsBack_iff

/-- The reader scales the digits by a power of ten, and so it may round twice. -/
example : ¬ ReadsBack 123456789.12345679 := by decide +kernel

/-- Values that have a text of their own: numbers of sixty-four bits, doubles that are read back,
and whatever is made of them. -/
inductive Legible : Value → Prop where
  | null : Legible .null
  | flag (b : Bool) : Legible (.flag b)
  | whole {n : Int} (h : IsWord n) : Legible (.whole n)
  | real {x : Float} (hfinite : x.isFinite = true) (h : ReadsBack x) : Legible (.real x)
  | text (s : String) : Legible (.text s)
  | list {items : List Value} (h : ∀ v ∈ items, Legible v) : Legible (.list items)
  | record {fields : List (String × Value)} (h : ∀ f ∈ fields, Legible f.2) :
    Legible (.record fields)

/-- A text is read as a value, whatever follows that stops a number. -/
def Denotes (s : List Char) (v : Value) : Prop :=
  ∀ fuel rest, s.length ≤ fuel → Stops rest → value? fuel (s ++ rest) = some (v, rest)

def DenotesField (s : List Char) (f : String × Value) : Prop :=
  ∃ text, s = quote f.1.toList ++ [':', ' '] ++ text ∧ Denotes text f.2

theorem stops_newline (level : Nat) (s : List Char) : Stops (newline level ++ s) :=
  stops_cons.2 (by decide)

theorem skipSpace_newline (level : Nat) (s : List Char) :
    skipSpace (newline level ++ s) = skipSpace s := by
  have hblanks : ∀ n, skipSpace (List.replicate n ' ' ++ s) = skipSpace s := by
    intro n
    induction n with
    | zero => rfl
    | succ n ih =>
      rwa [List.replicate_succ, List.cons_append, skipSpace,
        List.dropWhile_cons_of_pos (by decide)]
  rw [newline, List.cons_append, skipSpace, List.dropWhile_cons_of_pos (by decide)]
  exact hblanks _

theorem skipSpace_cons {c : Char} (h : isSpace c = false) (s : List Char) :
    skipSpace (c :: s) = c :: s := by
  simp [skipSpace, h]

theorem head_of_value? {fuel : Nat} {s : List Char} {p : Value × List Char}
    (h : value? fuel s = some p) : ∃ c t, s = c :: t ∧ isSpace c = false ∧ c ≠ ']' := by
  match fuel, s with
  | 0, _ => cases h
  | _ + 1, [] => cases h
  | _ + 1, c :: t =>
    refine ⟨c, t, rfl, ?_, ?_⟩
    · by_contra hspace
      rcases isSpace_iff.1 (Bool.not_eq_false _ ▸ hspace) with rfl | rfl | rfl | rfl <;> cases h
    · rintro rfl
      cases h

section

variable {fuel : Nat} {s t r rest : List Char} {v : Value} {vs : List Value}
  {name : String} {fields : List (String × Value)}

theorem items?_last (hv : value? fuel s = some (v, r)) (hr : skipSpace r = ']' :: rest) :
    items? (fuel + 1) s = some ([v], rest) := by
  simp [items?, hv, hr]

theorem items?_cons (hv : value? fuel s = some (v, r)) (hr : skipSpace r = ',' :: t)
    (hvs : items? fuel (skipSpace t) = some (vs, rest)) :
    items? (fuel + 1) s = some (v :: vs, rest) := by
  simp [items?, hv, hr, hvs]

theorem skipSpace_of_value? {p : Value × List Char} (h : value? fuel s = some p) :
    skipSpace s = s := by
  obtain ⟨c, t, rfl, hspace, -⟩ := head_of_value? h
  exact skipSpace_cons hspace t

theorem fields?_quote (hv : value? fuel s = some (v, r)) :
    fields? (fuel + 1) (quote name.toList ++ ([':', ' '] ++ s)) =
      match skipSpace r with
        | '\x7d' :: rest => some (some [(name, v)], rest)
        | ',' :: rest => (fields? fuel (skipSpace rest)).bind fun (more, rest) =>
          some (more.bind fun more => some ((name, v) :: more), rest)
        | _ => none := by
  have hname : string? (name.toList.flatMap escape ++ '"' :: ':' :: ' ' :: s) =
      some (some name.toList, ':' :: ' ' :: s) := string?_escape _ _
  have hcolon : skipSpace (':' :: ' ' :: s) = ':' :: ' ' :: s := rfl
  have hblank : skipSpace (' ' :: s) = s := skipSpace_of_value? hv
  have hquote : quote name.toList ++ ([':', ' '] ++ s) =
      '"' :: (name.toList.flatMap escape ++ '"' :: ':' :: ' ' :: s) := by
    simp [quote]
  rw [hquote, fields?]
  simp only [hname, hcolon, hblank, hv, Option.bind_eq_bind, Option.bind_some, Option.map_some,
    String.ofList_toList]
  rfl

theorem fields?_last (hv : value? fuel s = some (v, r)) (hr : skipSpace r = '\x7d' :: rest) :
    fields? (fuel + 1) (quote name.toList ++ ([':', ' '] ++ s)) =
      some (some [(name, v)], rest) := by
  rw [fields?_quote hv, hr]
  rfl

theorem fields?_cons (hv : value? fuel s = some (v, r)) (hr : skipSpace r = ',' :: t)
    (hfields : fields? fuel (skipSpace t) = some (some fields, rest)) :
    fields? (fuel + 1) (quote name.toList ++ ([':', ' '] ++ s)) =
      some (some ((name, v) :: fields), rest) := by
  rw [fields?_quote hv, hr]
  simp [hfields]

theorem head_of_items? {p : List Value × List Char} (h : items? fuel s = some p) :
    ∃ c t, s = c :: t ∧ isSpace c = false ∧ c ≠ ']' := by
  cases fuel with
  | zero => cases h
  | succ fuel =>
    obtain ⟨q, hq, -⟩ := Option.bind_eq_some_iff.1 h
    exact head_of_value? hq

theorem head_of_fields? {p : Option (List (String × Value)) × List Char}
    (h : fields? fuel s = some p) : ∃ t, s = '"' :: t := by
  cases fuel with
  | zero => cases h
  | succ fuel =>
    rw [fields?.eq_def] at h
    dsimp only at h
    split at h
    · exact ⟨_, rfl⟩
    · cases h

theorem value?_of_items? (level : Nat) (h : items? fuel s = some (vs, rest)) :
    value? (fuel + 1) ('[' :: (newline level ++ s)) = some (.list vs, rest) := by
  obtain ⟨c, t, rfl, hspace, hclosing⟩ := head_of_items? h
  have hskip : skipSpace (newline level ++ c :: t) = c :: t := by
    rw [skipSpace_newline, skipSpace_cons hspace]
  simp [value?, hskip, hclosing, h]

theorem value?_of_fields? (level : Nat) (h : fields? fuel s = some (some fields, rest)) :
    value? (fuel + 1) ('\x7b' :: (newline level ++ s)) = some (.record fields, rest) := by
  obtain ⟨t, rfl⟩ := head_of_fields? h
  have hskip : skipSpace (newline level ++ '"' :: t) = '"' :: t := by
    rw [skipSpace_newline, skipSpace_cons (by decide)]
  simp [value?, hskip, h]

end

theorem joinWith_cons {parts : List (List Char)} (h : parts ≠ []) (separator part : List Char) :
    joinWith separator (part :: parts) = part ++ (separator ++ joinWith separator parts) := by
  cases parts with
  | nil => exact absurd rfl h
  | cons => rw [joinWith.eq_3 _ _ _ (by simp), List.append_assoc]

/-- A reader that takes one part after another takes all parts that are joined. The list of what it
has read may stand in a wrapper. -/
theorem read_joinWith {α β : Type} (read : Nat → List Char → Option (β × List Char))
    (wrap : List α → β) (Part : List Char → α → Prop) {closing : Char}
    (hskip : ∀ {fuel s p}, read fuel s = some p → skipSpace s = s)
    (hlast : ∀ {fuel s a r rest}, Part s a → s.length ≤ fuel → Stops r →
      skipSpace r = closing :: rest → read (fuel + 1) (s ++ r) = some (wrap [a], rest))
    (hcons : ∀ {fuel s a r t as rest}, Part s a → s.length ≤ fuel → Stops r →
      skipSpace r = ',' :: t → read fuel (skipSpace t) = some (wrap as, rest) →
        read (fuel + 1) (s ++ r) = some (wrap (a :: as), rest))
    {parts : List (List Char)} {as : List α} (h : List.Forall₂ Part parts as) (hne : parts ≠ [])
    {fuel inner outer : Nat} (hfuel : (joinWith (',' :: newline inner) parts).length < fuel)
    {rest : List Char} (hclosing : isSpace closing = false) :
    read fuel (joinWith (',' :: newline inner) parts ++ (newline outer ++ closing :: rest)) =
      some (wrap as, rest) := by
  induction h generalizing fuel with
  | nil => exact absurd rfl hne
  | @cons part a parts as hpart hparts ih =>
    obtain ⟨fuel, rfl⟩ : ∃ n, fuel = n + 1 := ⟨fuel - 1, by omega⟩
    by_cases hmore : parts = []
    · subst hmore
      cases hparts
      rw [joinWith] at hfuel ⊢
      refine hlast hpart (by omega) (stops_newline _ _) ?_
      rw [skipSpace_newline, skipSpace_cons hclosing]
    · rw [joinWith_cons hmore] at hfuel ⊢
      simp only [List.length_append, List.length_cons] at hfuel
      have hread : read fuel (joinWith (',' :: newline inner) parts ++
          (newline outer ++ closing :: rest)) = some (wrap as, rest) := ih hmore (by omega)
      rw [List.append_assoc, List.append_assoc, List.cons_append]
      refine hcons hpart (by omega) (stops_cons.2 (by decide)) (skipSpace_cons (by decide) _) ?_
      rw [skipSpace_newline, hskip hread, hread]

section

variable {parts : List (List Char)} {fuel inner outer : Nat} {rest : List Char}

theorem items?_joinWith {vs : List Value} (h : List.Forall₂ Denotes parts vs) (hne : parts ≠ [])
    (hfuel : (joinWith (',' :: newline inner) parts).length < fuel) :
    items? fuel (joinWith (',' :: newline inner) parts ++ (newline outer ++ ']' :: rest)) =
      some (vs, rest) := by
  refine read_joinWith items? id Denotes ?_ ?_ ?_ h hne hfuel (by decide)
  · intro fuel s p hp
    obtain ⟨c, t, rfl, hspace, -⟩ := head_of_items? hp
    exact skipSpace_cons hspace t
  · intro fuel s v r rest hv hlength hstops hr
    exact items?_last (hv _ _ hlength hstops) hr
  · intro fuel s v r t vs rest hv hlength hstops hr hvs
    exact items?_cons (hv _ _ hlength hstops) hr hvs

theorem fields?_joinWith {fields : List (String × Value)}
    (h : List.Forall₂ DenotesField parts fields) (hne : parts ≠ [])
    (hfuel : (joinWith (',' :: newline inner) parts).length < fuel) :
    fields? fuel (joinWith (',' :: newline inner) parts ++ (newline outer ++ '\x7d' :: rest)) =
      some (some fields, rest) := by
  refine read_joinWith fields? some DenotesField ?_ ?_ ?_ h hne hfuel (by decide)
  · intro fuel s p hp
    obtain ⟨t, rfl⟩ := head_of_fields? hp
    exact skipSpace_cons (by decide) t
  · rintro fuel s ⟨name, v⟩ r rest ⟨text, rfl, hv⟩ hlength hstops hr
    simp only [List.length_append] at hlength
    rw [List.append_assoc, List.append_assoc]
    exact fields?_last (hv _ _ (by omega) hstops) hr
  · rintro fuel s ⟨name, v⟩ r t fields rest ⟨text, rfl, hv⟩ hlength hstops hr hfields
    simp only [List.length_append] at hlength
    rw [List.append_assoc, List.append_assoc]
    exact fields?_cons (hv _ _ (by omega) hstops) hr hfields

/-- A block denotes what is read of it with nothing and with something between the brackets. -/
theorem denotes_block {opening closing : Char} {level : Nat} {v : Value}
    (hnil : parts = [] → ∀ fuel rest,
      value? (fuel + 1) (opening :: closing :: rest) = some (v, rest))
    (hparts : parts ≠ [] → ∀ fuel rest,
      (joinWith (',' :: newline (level + 1)) parts).length < fuel →
        value? (fuel + 1) (opening :: (newline (level + 1) ++
          (joinWith (',' :: newline (level + 1)) parts ++ (newline level ++ closing :: rest)))) =
            some (v, rest)) :
    Denotes (block level opening closing parts) v := by
  intro fuel rest hfuel hrest
  rw [block] at hfuel ⊢
  split_ifs at hfuel ⊢ with hempty <;> rw [List.isEmpty_iff] at hempty
  · obtain ⟨fuel, rfl⟩ : ∃ n, fuel = n + 1 := ⟨fuel - 1, by simp at hfuel; omega⟩
    exact hnil hempty fuel rest
  · simp only [List.length_append, List.length_cons, List.length_nil] at hfuel
    obtain ⟨fuel, rfl⟩ : ∃ n, fuel = n + 1 := ⟨fuel - 1, by omega⟩
    simpa using hparts hempty fuel rest (by omega)

theorem denotes_list (level : Nat) {vs : List Value} (h : List.Forall₂ Denotes parts vs) :
    Denotes (block level '[' ']' parts) (.list vs) := by
  refine denotes_block ?_ fun hne fuel rest hfuel => ?_
  · rintro rfl
    cases h
    exact fun _ _ => rfl
  · exact value?_of_items? (level + 1) (items?_joinWith h hne hfuel)

theorem denotes_record (level : Nat) {fields : List (String × Value)}
    (h : List.Forall₂ DenotesField parts fields) :
    Denotes (block level '\x7b' '\x7d' parts) (.record fields) := by
  refine denotes_block ?_ fun hne fuel rest hfuel => ?_
  · rintro rfl
    cases h
    exact fun _ _ => rfl
  · exact value?_of_fields? (level + 1) (fields?_joinWith h hne hfuel)

end

/-- A text that is read with any fuel denotes the value. -/
theorem denotes_of_value? {s : List Char} {v : Value} (hs : s ≠ [])
    (h : ∀ fuel rest, Stops rest → value? (fuel + 1) (s ++ rest) = some (v, rest)) :
    Denotes s v := by
  intro fuel rest hfuel hrest
  have hpos := List.length_pos_iff.2 hs
  obtain ⟨fuel, rfl⟩ : ∃ n, fuel = n + 1 := ⟨fuel - 1, by omega⟩
  exact h fuel rest hrest

theorem denotes_quote (s : String) : Denotes (quote s.toList) (.text s) := by
  refine denotes_of_value? (by simp [quote]) fun fuel rest _ => ?_
  have hquote : quote s.toList ++ rest = '"' :: (s.toList.flatMap escape ++ '"' :: rest) := by
    simp [quote]
  rw [hquote, value?]
  simp [string?_escape]

theorem denotes_integer {n : Int} (h : IsWord n) : Denotes (integer n) (.whole n) := by
  refine denotes_of_value? ?_ fun fuel rest hrest => value?_integer h hrest fuel
  simp [integer, numeral_ne_nil]

theorem denotes_number {x : Float} (hfinite : x.isFinite = true) (h : ReadsBack x) :
    Denotes (number x) (.real x) := by
  rw [number, if_pos hfinite]
  refine denotes_of_value? ?_ fun fuel rest hrest =>
    value?_append_of_parse? h (fun c => isSpace_of_mem_data) hrest fuel
  intro hnil
  rw [ReadsBack, hnil] at h
  cases h

theorem forall₂_prettyItems {level : Nat} {items : List Value}
    (h : ∀ v ∈ items, Denotes (pretty level v) v) :
    List.Forall₂ Denotes (prettyItems level items) items := by
  induction items with
  | nil => exact .nil
  | cons v items ih => exact .cons (h v (by simp)) (ih fun w hw => h w (by simp [hw]))

theorem forall₂_prettyFields {level : Nat} {fields : List (String × Value)}
    (h : ∀ f ∈ fields, Denotes (pretty level f.2) f.2) :
    List.Forall₂ DenotesField (prettyFields level fields) fields := by
  induction fields with
  | nil => exact .nil
  | cons f fields ih =>
    exact .cons ⟨_, rfl, h f (by simp)⟩ (ih fun w hw => h w (by simp [hw]))

theorem denotes_pretty {v : Value} (h : Legible v) (level : Nat) : Denotes (pretty level v) v := by
  induction h generalizing level with
  | null => exact denotes_of_value? (by simp [pretty, scalar]) fun _ _ _ => rfl
  | flag b => cases b <;> exact denotes_of_value? (by simp [pretty, scalar]) fun _ _ _ => rfl
  | whole h => exact denotes_integer h
  | real hfinite h => exact denotes_number hfinite h
  | text s => exact denotes_quote s
  | list _ ih => exact denotes_list level (forall₂_prettyItems fun v hv => ih v hv (level + 1))
  | record _ ih => exact denotes_record level (forall₂_prettyFields fun f hf => ih f hf (level + 1))

/-- Every legible value is read back from its text. -/
theorem parse?_pretty {v : Value} (h : Legible v) : parse? (pretty 0 v) = some v := by
  have hread := denotes_pretty h 0 ((pretty 0 v).length + 1) [] (by omega) stops_nil
  rw [List.append_nil] at hread
  rw [parse?, skipSpace_of_value? hread, hread]
  rfl

end CostGate.Document.Json
