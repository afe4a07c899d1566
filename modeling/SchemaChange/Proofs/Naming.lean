import Mathlib.Data.List.Nodup
import SchemaChange.Naming
import SchemaChange.Proofs.Catalog.Lookup
import SchemaChange.Proofs.Text.Digits

/-!
# Proofs.Naming — names that are given once

The number of a generated name is greater than all numbers in use, as long as there is a greater one
of 64 bits. So a name that is generated is new, and names that are generated one after the other
have consecutive numbers.

- `IsNumbered`          : a name that is a stem and a number
- `IsNext`              : the number of the next name
- `isNext_nextSuffix`   : that is the number which is generated
- `IsNext.mem_iff`      : a generated name is in use only if the numbers are used up
- `NameRequest.Issues`  : names that are generated one after the other
- `NameRequest.fresh_isNext` : what is generated
-/

namespace SchemaChange

/-! ## Names with numbers -/

/-- The name is the stem and behind it decimal digits for a number of 64 bits. Zeros may stand in
front of the number, a sign may not. -/
def IsNumbered (stem name : String) (n : Nat) : Prop :=
  ∃ digits, name.toList = stem.toList ++ digits ∧ digits ≠ [] ∧
    (∀ c ∈ digits, c.isDigit = true) ∧ Nat.ofDigitChars 10 digits 0 = n ∧ n < 0x10000000000000000

theorem afterStem?_eq_some {stem name rest : List Char} :
    afterStem? stem name = some rest ↔ name = stem ++ rest := by
  induction stem generalizing name with
  | nil => rw [afterStem?, Option.some.injEq, List.nil_append]
  | cons s stem ih =>
      cases name with
      | nil => simp [afterStem?]
      | cons c name =>
          rw [afterStem?]
          by_cases same : s = c
          · rw [if_pos same, ih, List.cons_append, List.cons.injEq, and_iff_right same.symm]
          · simp [same, Ne.symm same]

theorem suffix?_eq_some {stem name : String} {n : Nat} :
    suffix? stem name = some n ↔ IsNumbered stem name n := by
  have within : n ≤ maxSuffix ↔ n < 0x10000000000000000 := Nat.le_iff_lt_add_one
  calc
    suffix? stem name = some n
      ↔ (afterStem? stem.toList name.toList).bind Text.readNat? = some n ∧ n ≤ maxSuffix := by
          rw [suffix?]
          cases (afterStem? stem.toList name.toList).bind Text.readNat? with
          | none => simp
          | some m =>
              dsimp only
              rw [Option.ite_none_right_eq_some, and_comm]
              exact and_congr_right fun same => by rw [Option.some.inj same]
    _ ↔ IsNumbered stem name n := by
          simp only [Option.bind_eq_some_iff, afterStem?_eq_some, Text.readNat?_eq_some,
            IsNumbered, within, ← exists_and_right, and_assoc]

/-- A name has one number. -/
theorem IsNumbered.unique {stem name : String} {n m : Nat} (h : IsNumbered stem name n)
    (h' : IsNumbered stem name m) : n = m := by
  rw [← suffix?_eq_some] at h h'
  exact Option.some.inj (h.symm.trans h')

theorem isNumbered_decimal (stem : String) {n : Nat} (small : n < 0x10000000000000000) :
    IsNumbered stem (stem ++ Text.decimal n) n := by
  rcases Text.readNat?_eq_some.1 (Text.readNat?_decimal n) with ⟨nonempty, digits, value⟩
  exact ⟨_, String.toList_append, nonempty, digits, value, small⟩

/-! ## The next number -/

/-- The number that comes behind those in use: the first one, if no name has a number, else one more
than the greatest. Behind the greatest number of 64 bits comes that number again. -/
inductive IsNext (stem : String) (names : List String) : Nat → Prop
  | first (unused : ∀ name ∈ names, ∀ n, ¬IsNumbered stem name n) : IsNext stem names 0
  | behind {greatest : Nat} (used : ∃ name ∈ names, IsNumbered stem name greatest)
      (most : ∀ name ∈ names, ∀ n, IsNumbered stem name n → n ≤ greatest) :
      IsNext stem names (min (greatest + 1) 0xFFFFFFFFFFFFFFFF)

theorem isNext_nextSuffix (stem : String) (names : List String) :
    IsNext stem names (nextSuffix stem names) := by
  have mem : ∀ n, n ∈ names.filterMap (suffix? stem) ↔ ∃ name ∈ names, IsNumbered stem name n := by
    intro n
    simp only [List.mem_filterMap, suffix?_eq_some]
  rw [nextSuffix]
  cases found : (names.filterMap (suffix? stem)).max? with
  | none =>
      rw [List.max?_eq_none_iff] at found
      refine .first fun name given n numbered => ?_
      have used := (mem n).2 ⟨name, given, numbered⟩
      rw [found] at used
      cases used
  | some greatest =>
      -- The greatest of the numbers is that of some name, and no name has a greater one.
      rcases List.max?_eq_some_iff.1 found with ⟨used, most⟩
      exact .behind ((mem greatest).1 used)
        fun name given n numbered => most n ((mem n).2 ⟨name, given, numbered⟩)

section Next

variable {stem : String} {names others : List String} {n m : Nat}

theorem IsNext.unique (h : IsNext stem names n) (h' : IsNext stem names m) : n = m := by
  cases h with
  | first unused =>
      cases h' with
      | first _ => rfl
      | behind used _ =>
          rcases used with ⟨name, given, numbered⟩
          exact absurd numbered (unused name given _)
  | behind used most =>
      rcases used with ⟨name, given, numbered⟩
      cases h' with
      | first unused => exact absurd numbered (unused name given _)
      | behind used' most' =>
          -- Of two greatest numbers neither is greater than the other.
          rcases used' with ⟨name', given', numbered'⟩
          have up := most' name given _ numbered
          have down := most name' given' _ numbered'
          rw [Nat.le_antisymm up down]

/-- Neither the order of the names nor how often one is given plays a part. -/
theorem IsNext.congr (h : IsNext stem names n) (same : ∀ name, name ∈ others ↔ name ∈ names) :
    IsNext stem others n := by
  cases h with
  | first unused => exact .first fun name given => unused name ((same name).1 given)
  | behind used most =>
      rcases used with ⟨name, given, numbered⟩
      exact .behind ⟨name, (same name).2 given, numbered⟩
        fun name' given' => most name' ((same name').1 given')

theorem IsNext.lt (h : IsNext stem names n) : n < 0x10000000000000000 := by
  cases h with
  | first _ => decide
  | behind _ _ => omega

/-- Up to the greatest number of 64 bits, the next number is greater than those in use. -/
theorem IsNext.lt_of_mem (h : IsNext stem names n) (small : n < 0xFFFFFFFFFFFFFFFF)
    {name : String} (given : name ∈ names) {used : Nat} (numbered : IsNumbered stem name used) :
    used < n := by
  cases h with
  | first unused => exact absurd numbered (unused name given used)
  | behind _ most =>
      have least := most name given used numbered
      omega

/-- A generated name is in use only if it has the greatest number of all, and then because a name
with that number and without zeros in front of it is. -/
theorem IsNext.mem_iff (h : IsNext stem names n) :
    stem ++ Text.decimal n ∈ names ↔ stem ++ "18446744073709551615" ∈ names := by
  have last : Text.decimal 0xFFFFFFFFFFFFFFFF = "18446744073709551615" := by decide +kernel
  constructor
  · -- A number below the greatest one is greater than all in use, and so is not in use.
    intro given
    have least : ¬n < 0xFFFFFFFFFFFFFFFF := fun small =>
      absurd (h.lt_of_mem small given (isNumbered_decimal stem h.lt)) (Nat.lt_irrefl n)
    have greatest : n = 0xFFFFFFFFFFFFFFFF := by
      have := h.lt
      omega
    rwa [greatest, last] at given
  · -- If the greatest number is in use, no number but itself can follow.
    intro given
    rw [← last] at given
    have numbered := isNumbered_decimal stem (n := 0xFFFFFFFFFFFFFFFF) (by decide)
    have next : n = 0xFFFFFFFFFFFFFFFF := by
      by_contra other
      have := h.lt
      have := h.lt_of_mem (by omega) given numbered
      omega
    rwa [next]

/-- Once a generated name is in use the next number follows. -/
theorem IsNext.succ (h : IsNext stem names n)
    (added : ∀ name, name ∈ others ↔ name = stem ++ Text.decimal n ∨ name ∈ names) :
    IsNext stem others (min (n + 1) 0xFFFFFFFFFFFFFFFF) := by
  have numbered := isNumbered_decimal stem h.lt
  refine .behind ⟨_, (added _).2 (.inl rfl), numbered⟩ ?_
  intro name given m numbered'
  rcases (added name).1 given with rfl | old
  · exact (numbered'.unique numbered).le
  · by_cases room : n < 0xFFFFFFFFFFFFFFFF
    · exact (h.lt_of_mem room old numbered').le
    · -- Numbers of 64 bits do not pass the greatest one.
      rcases numbered' with ⟨_, _, _, _, _, small⟩
      omega

end Next

/-! ## Requests -/

namespace NameRequest

variable {r : NameRequest} {catalog : Catalog} {rows : List Catalog.Row}

/-- What the catalog is asked for the names that begin with the stem. -/
def query (r : NameRequest) : Catalog.Query :=
  ⟨r.takenSql, [.text r.stem]⟩

theorem finds_fresh (reply : catalog r.query = .ok rows) {name : String} :
    r.fresh.Finds catalog name ↔ r.nameFor rows = name := by
  have asked : ∀ answer, (Lookup.ask (NamingError.mk r.stem) r.query).Finds catalog answer ↔
      rows = answer := by
    intro answer
    simp [Lookup.Finds, Lookup.run, Lookup.ask, reply, Except.mapError]
  have steps : r.fresh.Finds catalog name ↔ ∃ answer,
      (Lookup.ask (NamingError.mk r.stem) r.query).Finds catalog answer ∧
        (pure (r.nameFor answer) : Lookup NamingError String).Finds catalog name :=
    Lookup.finds_bind
  simp only [steps, asked, Lookup.finds_pure, exists_eq_left']

/-- Names that are generated one after the other. Each one is in use when the next one is asked for,
and apart from that the names in use stay what they are. -/
inductive Issues (r : NameRequest) : Catalog → List String → Prop
  | none (catalog : Catalog) : Issues r catalog []
  | next {catalog later : Catalog} {rows rows' : List Catalog.Row} {name : String}
      {names : List String} (before : catalog r.query = .ok rows)
      (found : r.fresh.Finds catalog name) (after : later r.query = .ok rows')
      (added : ∀ other, other ∈ namesIn rows' ↔ other = name ∨ other ∈ namesIn rows)
      (rest : Issues r later names) : Issues r catalog (name :: names)

theorem finds_fresh_iff (reply : catalog r.query = .ok rows) {n : Nat}
    (next : IsNext r.stem (namesIn rows) n) {name : String} :
    r.fresh.Finds catalog name ↔ r.stem ++ Text.decimal n = name := by
  rw [finds_fresh reply, nameFor, next.unique (isNext_nextSuffix _ _)]

/-- The numbers follow each other up to the greatest one, which is given again and again. -/
theorem Issues.eq_map {names : List String} (h : r.Issues catalog names)
    (reply : catalog r.query = .ok rows) {n : Nat} (next : IsNext r.stem (namesIn rows) n) :
    names = (List.range names.length).map
      fun i => r.stem ++ Text.decimal (min (n + i) 0xFFFFFFFFFFFFFFFF) := by
  induction h generalizing rows n with
  | none => rfl
  | @next catalog later rows₀ rows' name names before found after added _ ih =>
      -- The first name has the next number, and behind it the numbers go on with its successor.
      rw [before, Except.ok.injEq] at reply
      subst reply
      rw [finds_fresh_iff before next] at found
      subst found
      have first : min (n + 0) 0xFFFFFFFFFFFFFFFF = n := by
        have := next.lt
        omega
      have later : ∀ i, min (min (n + 1) 0xFFFFFFFFFFFFFFFF + i) 0xFFFFFFFFFFFFFFFF =
          min (n + (i + 1)) 0xFFFFFFFFFFFFFFFF := by
        omega
      have others := ih after (next.succ added)
      simp only [later] at others
      rw [List.length_cons, List.range_succ_eq_map, List.map_cons, List.map_map, first]
      exact congrArg _ others

/-- Below the greatest number no number is given twice. -/
theorem Issues.consecutive {names : List String} (h : r.Issues catalog names)
    (reply : catalog r.query = .ok rows) {n : Nat} (next : IsNext r.stem (namesIn rows) n)
    (room : n + names.length ≤ 0xFFFFFFFFFFFFFFFF) :
    names = (List.range names.length).map (fun i => r.stem ++ Text.decimal (n + i)) ∧
      names.Nodup := by
  have numbers : names =
      (List.range names.length).map (fun i => r.stem ++ Text.decimal (n + i)) := by
    calc
      names = (List.range names.length).map
          (fun i => r.stem ++ Text.decimal (min (n + i) 0xFFFFFFFFFFFFFFFF)) :=
        h.eq_map reply next
      _ = (List.range names.length).map (fun i => r.stem ++ Text.decimal (n + i)) := by
          refine List.map_congr_left fun i mem => ?_
          have := List.mem_range.1 mem
          rw [Nat.min_eq_left (by omega)]
  refine ⟨numbers, ?_⟩
  rw [numbers]
  refine List.Nodup.map_on ?_ List.nodup_range
  -- A name has one number, so two places with the same name are one place.
  intro i hi j hj same
  rw [List.mem_range] at hi hj
  have numbered := isNumbered_decimal r.stem (n := n + i) (by omega)
  have numbered' := isNumbered_decimal r.stem (n := n + j) (by omega)
  have equal := numbered.unique (same ▸ numbered')
  omega

/-- The generated name is the stem and the next number, whatever the order of the names in use and
however often each of them is given. It is in use only if the numbers are used up. Names that are
generated one after the other have consecutive numbers, so they differ, as long as the numbers stay
below the greatest one. -/
theorem fresh_isNext (r : NameRequest) (catalog : Catalog) (rows : List Catalog.Row)
    (reply : catalog r.query = .ok rows) : ∃ n,
      r.fresh.Finds catalog (r.stem ++ Text.decimal n) ∧ IsNext r.stem (namesIn rows) n ∧
      (∀ (other : Catalog) (rows' : List Catalog.Row), other r.query = .ok rows' →
        (∀ name, name ∈ namesIn rows' ↔ name ∈ namesIn rows) →
        r.fresh.Finds other (r.stem ++ Text.decimal n)) ∧
      (r.stem ++ Text.decimal n ∈ namesIn rows ↔
        r.stem ++ "18446744073709551615" ∈ namesIn rows) ∧
      ∀ names, r.Issues catalog names → n + names.length ≤ 0xFFFFFFFFFFFFFFFF →
        names = (List.range names.length).map (fun i => r.stem ++ Text.decimal (n + i)) ∧
          names.Nodup := by
  have next := isNext_nextSuffix r.stem (namesIn rows)
  refine ⟨_, (finds_fresh_iff reply next).2 rfl, next, ?_, next.mem_iff, ?_⟩
  · intro other rows' reply' same
    exact (finds_fresh_iff reply' (next.congr same)).2 rfl
  · intro names issued room
    exact issued.consecutive reply next room

/-- Rows with names of indexes: padded, with zeros or a sign in front of the number, with a number
that is too great; then rows without a name. -/
def indexRows (added : List String) : List Catalog.Row :=
  (["IDX_T_07  ", "IDX_T_007", "IDX_T_+9", "IDX_T_99999999999999999999"] ++ added).map
      (fun name => ⟨["RDB$INDEX_NAME"], [.text name]⟩) ++
    [⟨["RDB$INDEX_NAME"], [.int32 9]⟩, ⟨[], []⟩]

theorem fresh_isNext_indexRows :
    let r : NameRequest := ⟨.index, " T "⟩
    let catalog := fun added => Catalog.ofAnswers [(r.query, indexRows added)]
    catalog [] r.query = .ok (indexRows []) ∧
      r.Issues (catalog []) ["IDX_T_8", "IDX_T_9"] ∧
      IsNext r.stem (namesIn (indexRows [])) 8 ∧ r.fresh.Finds (catalog []) "IDX_T_8" ∧
      ["IDX_T_8", "IDX_T_9"] = (List.range 2).map fun i => r.stem ++ Text.decimal (8 + i) := by
  intro r catalog
  have reply : ∀ added, catalog added r.query = .ok (indexRows added) := by
    intro added
    simp [catalog, Catalog.ofAnswers]
  have issued : r.Issues (catalog []) ["IDX_T_8", "IDX_T_9"] := by
    have names : namesIn (indexRows []) =
        ["IDX_T_07", "IDX_T_007", "IDX_T_+9", "IDX_T_99999999999999999999"] := by
      decide +kernel
    have names' : namesIn (indexRows ["IDX_T_8 "]) =
        ["IDX_T_07", "IDX_T_007", "IDX_T_+9", "IDX_T_99999999999999999999", "IDX_T_8"] := by
      decide +kernel
    have names'' : namesIn (indexRows ["IDX_T_8 ", "IDX_T_9"]) =
        ["IDX_T_07", "IDX_T_007", "IDX_T_+9", "IDX_T_99999999999999999999", "IDX_T_8",
          "IDX_T_9"] := by
      decide +kernel
    refine .next (reply []) ((finds_fresh (reply [])).2 (by decide +kernel))
      (reply ["IDX_T_8 "]) ?_ ?_
    · intro other
      rw [names, names']
      simp [or_comm, or_left_comm]
    · refine .next (reply ["IDX_T_8 "]) ((finds_fresh (reply ["IDX_T_8 "])).2 (by decide +kernel))
        (reply ["IDX_T_8 ", "IDX_T_9"]) ?_ (.none _)
      intro other
      rw [names', names'']
      simp [or_comm, or_left_comm]
  rcases fresh_isNext r (catalog []) _ (reply []) with ⟨n, found, next, -, -, series⟩
  have eight : n = 8 := by
    calc
      n = nextSuffix r.stem (namesIn (indexRows [])) := next.unique (isNext_nextSuffix _ _)
      _ = 8 := by decide +kernel
  subst eight
  have name : r.stem ++ Text.decimal 8 = "IDX_T_8" := by decide +kernel
  exact ⟨reply [], issued, next, name ▸ found, (series _ issued (by decide)).1⟩

end NameRequest
end SchemaChange
