import Mathlib.Data.List.Dedup
import Mathlib.Tactic.Tauto
import Stemming.Proofs.AbbreviationFile
import Stemming.Proofs.Lowercase

/-! Abbreviation tables under any run of insertions and loads. The table behaves as the list of
the rules inserted so far, of which the last one for a short form counts. -/
namespace Stemming.Abbreviations

/-- The short forms in the table. -/
def keys (a : Abbreviations) : List Token := a.entries.map Prod.fst

theorem lookup_cons (k : Token) (entry : Token × List Token)
    (entries : List (Token × List Token)) :
    (entry :: entries).lookup k = if k = entry.1 then some entry.2 else entries.lookup k := by
  rw [List.lookup_cons]
  by_cases hk : k = entry.1
  · simp [hk]
  · simp only [beq_eq_false_iff_ne.mpr hk, if_neg hk]

section Put

variable {key : Token} {words : List Token}

theorem lookup_put (k : Token) (entries : List (Token × List Token)) :
    (put key words entries).lookup k = if k = key then some words else entries.lookup k := by
  induction entries with
  | nil => exact lookup_cons k (key, words) []
  | cons entry entries ih =>
    unfold put
    by_cases hentry : entry.1 = key
    · rw [if_pos hentry, lookup_cons, lookup_cons, hentry]
      split_ifs <;> rfl
    · rw [if_neg hentry, lookup_cons, lookup_cons, ih]
      by_cases hk : k = entry.1
      · rw [if_pos hk, if_pos hk, if_neg (hk ▸ hentry)]
      · rw [if_neg hk, if_neg hk]

theorem map_fst_put (entries : List (Token × List Token)) :
    (put key words entries).map Prod.fst =
      if key ∈ entries.map Prod.fst then entries.map Prod.fst
      else entries.map Prod.fst ++ [key] := by
  induction entries with
  | nil => simp [put]
  | cons entry entries ih =>
    unfold put
    by_cases hentry : entry.1 = key
    · simp [hentry]
    · rw [if_neg hentry, List.map_cons, ih]
      by_cases hmem : key ∈ entries.map Prod.fst
      · simp [hmem]
      · simp [hmem, Ne.symm hentry]

theorem mem_put {entry : Token × List Token} {entries : List (Token × List Token)}
    (h : entry ∈ put key words entries) : entry = (key, words) ∨ entry ∈ entries := by
  induction entries with
  | nil => exact Or.inl (List.mem_singleton.mp h)
  | cons first entries ih =>
    unfold put at h
    split at h
    · rcases List.mem_cons.mp h with rfl | h
      · exact Or.inl rfl
      · exact Or.inr (List.mem_cons_of_mem first h)
    · rcases List.mem_cons.mp h with rfl | h
      · exact Or.inr List.mem_cons_self
      · exact (ih h).imp_right (List.mem_cons_of_mem first)

end Put

theorem get?_lowercase (a : Abbreviations) (t : Token) :
    a.get? (Text.lowercase t) = a.get? t := by
  unfold get?
  rw [Text.lowercase_lowercase]

theorem get?_insert (a : Abbreviations) (short : Token) (words : List Token) (t : Token) :
    (a.insert short words).get? t =
      if Text.lowercase t = Text.lowercase short then some words else a.get? t :=
  lookup_put _ _

/-- The rules inserted for the same short form as `t`, in order. -/
def rulesFor (t : Token) (rules : List (Token × List Token)) : List (Token × List Token) :=
  rules.filter fun rule => Text.lowercase rule.1 = Text.lowercase t

/-- The last rule for a short form counts, and the table before if there is none. -/
theorem get?_insertAll (a : Abbreviations) (rules : List (Token × List Token)) (t : Token) :
    (a.insertAll rules).get? t =
      ((rulesFor t rules).getLast?.map Prod.snd).or (a.get? t) := by
  induction rules generalizing a with
  | nil => rfl
  | cons rule rules ih =>
    have hstep : a.insertAll (rule :: rules) = (a.insert rule.1 rule.2).insertAll rules := rfl
    rw [hstep, ih, get?_insert]
    by_cases hrule : Text.lowercase rule.1 = Text.lowercase t
    · have hcons : rulesFor t (rule :: rules) = rule :: rulesFor t rules := by
        simp [rulesFor, hrule]
      rw [hcons, if_pos hrule.symm, List.getLast?_cons]
      cases (rulesFor t rules).getLast? <;> rfl
    · have hcons : rulesFor t (rule :: rules) = rulesFor t rules := by
        simp [rulesFor, hrule]
      rw [hcons, if_neg (Ne.symm hrule)]

/-- The short forms in a table are distinct and in lowercase. -/
structure WellKeyed (a : Abbreviations) : Prop where
  nodup : a.keys.Nodup
  lowercase : ∀ key ∈ a.keys, Text.lowercase key = key

theorem keys_insert (a : Abbreviations) (short : Token) (words : List Token) :
    (a.insert short words).keys =
      if Text.lowercase short ∈ a.keys then a.keys else a.keys ++ [Text.lowercase short] :=
  map_fst_put _

theorem WellKeyed.insert {a : Abbreviations} (h : a.WellKeyed) (short : Token)
    (words : List Token) : (a.insert short words).WellKeyed := by
  by_cases hmem : Text.lowercase short ∈ a.keys
  · have hkeys : (a.insert short words).keys = a.keys := by rw [keys_insert, if_pos hmem]
    constructor
    · rw [hkeys]
      exact h.nodup
    · rw [hkeys]
      exact h.lowercase
  · have hkeys : (a.insert short words).keys = a.keys ++ [Text.lowercase short] := by
      rw [keys_insert, if_neg hmem]
    constructor
    · rw [hkeys]
      exact h.nodup.append (List.nodup_singleton _) (by simpa using hmem)
    · intro key hkey
      rw [hkeys] at hkey
      rcases List.mem_append.mp hkey with hkey | hkey
      · exact h.lowercase key hkey
      · rw [List.mem_singleton.mp hkey]
        exact Text.lowercase_lowercase short

theorem WellKeyed.insertAll {a : Abbreviations} (h : a.WellKeyed)
    (rules : List (Token × List Token)) : (a.insertAll rules).WellKeyed := by
  induction rules generalizing a with
  | nil => exact h
  | cons rule rules ih => exact ih (h.insert rule.1 rule.2)

theorem mem_keys_insertAll {a : Abbreviations} {rules : List (Token × List Token)}
    {key : Token} : key ∈ (a.insertAll rules).keys ↔
      key ∈ a.keys ++ rules.map fun rule => Text.lowercase rule.1 := by
  induction rules generalizing a with
  | nil => simp [insertAll]
  | cons rule rules ih =>
    have hstep : a.insertAll (rule :: rules) = (a.insert rule.1 rule.2).insertAll rules := rfl
    rw [hstep, ih, keys_insert]
    split
    next hmem =>
      have hkey : key = Text.lowercase rule.1 → key ∈ a.keys := fun heq => heq ▸ hmem
      simp only [List.mem_append, List.map_cons, List.mem_cons]
      tauto
    next =>
      simp only [List.mem_append, List.map_cons, List.mem_cons, List.not_mem_nil, or_false]
      tauto

/-- The size counts the short forms that were ever there, each of them once. -/
theorem WellKeyed.size_insertAll {a : Abbreviations} (h : a.WellKeyed)
    (rules : List (Token × List Token)) :
    (a.insertAll rules).size =
      (a.keys ++ rules.map fun rule => Text.lowercase rule.1).dedup.length := by
  -- The keys stand in order of insertion, which `dedup` does not keep: compare them as sets.
  have hperm : (a.insertAll rules).keys.Perm
      (a.keys ++ rules.map fun rule => Text.lowercase rule.1).dedup := by
    rw [List.perm_ext_iff_of_nodup (h.insertAll rules).nodup (List.nodup_dedup _)]
    intro key
    rw [List.mem_dedup, mem_keys_insertAll]
  rw [← hperm.length_eq]
  exact (List.length_map _).symm

theorem lookup_of_mem {entries : List (Token × List Token)} {entry : Token × List Token}
    (hnodup : (entries.map Prod.fst).Nodup) (hmem : entry ∈ entries) :
    entries.lookup entry.1 = some entry.2 := by
  induction entries with
  | nil => exact absurd hmem List.not_mem_nil
  | cons first entries ih =>
    obtain ⟨hfresh, hnodup⟩ := List.nodup_cons.mp hnodup
    rw [lookup_cons]
    rcases List.mem_cons.mp hmem with rfl | hmem
    · rw [if_pos rfl]
    · have hne : entry.1 ≠ first.1 := by
        intro heq
        exact hfresh (heq ▸ List.mem_map_of_mem hmem)
      rw [if_neg hne]
      exact ih hnodup hmem

/-- Every entry is found under its own short form. -/
theorem WellKeyed.get?_of_mem {a : Abbreviations} (h : a.WellKeyed)
    {entry : Token × List Token} (hmem : entry ∈ a.entries) : a.get? entry.1 = some entry.2 := by
  unfold get?
  rw [h.lowercase entry.1 (List.mem_map_of_mem hmem)]
  exact lookup_of_mem h.nodup hmem

/-- A short form stands for words: at least one, each of them a word without blanks. -/
def Expands (words : List Token) : Prop :=
  words ≠ [] ∧ ∀ word ∈ words, word ≠ [] ∧ ∀ c ∈ word, Text.isBlank c = false

theorem expands_insertAll {a : Abbreviations} (h : ∀ entry ∈ a.entries, Expands entry.2)
    {rules : List (Token × List Token)} (hrules : ∀ rule ∈ rules, Expands rule.2) :
    ∀ entry ∈ (a.insertAll rules).entries, Expands entry.2 := by
  induction rules generalizing a with
  | nil => exact h
  | cons rule rules ih =>
    apply ih
    · intro entry hentry
      rcases mem_put hentry with rfl | hentry
      · exact hrules rule List.mem_cons_self
      · exact h entry hentry
    · intro later hlater
      exact hrules later (List.mem_cons_of_mem rule hlater)

/-- No token is lost where every short form stands for at least one word. -/
theorem length_le_expand {a : Abbreviations} (h : ∀ entry ∈ a.entries, Expands entry.2)
    (ts : List Token) : ts.length ≤ (a.expand ts).length := by
  have hone (t : Token) : 1 ≤ (a.expandToken t).length := by
    unfold expandToken
    cases hget : a.get? t with
    | none => exact Nat.le_refl 1
    | some words =>
      obtain ⟨before, after, hentries, -⟩ := List.lookup_eq_some_iff.mp hget
      have hwords : Expands words := h (Text.lowercase t, words) (by rw [hentries]; simp)
      exact List.length_pos_iff.mpr hwords.1
  induction ts with
  | nil => exact Nat.zero_le _
  | cons t ts ih =>
    have hcons : a.expand (t :: ts) = a.expandToken t ++ a.expand ts := List.flatMap_cons
    rw [hcons, List.length_append, List.length_cons]
    have := hone t
    omega

/-- One change of a table. -/
inductive Edit where
  | insert (short : Token) (words : List Token)
  | load (read : FileReader) (path : String)

/-- A load that fails is a change too: it may have inserted rules before it failed. -/
def Edit.run (a : Abbreviations) : Edit → Abbreviations
  | .insert short words => a.insert short words
  | .load read path => (a.extend read path).1

def edit (a : Abbreviations) (edits : List Edit) : Abbreviations := edits.foldl Edit.run a

/-- The rules on lines, up to the first line that cannot be read. -/
def rulesUpToFault : List Bytes → List (Token × List Token)
  | [] => []
  | line :: ls =>
    match readLine line with
    | .error _ => []
    | .ok rule => rule.toList ++ rulesUpToFault ls

/-- The rules that a change inserts, in order. -/
def Edit.rules : Edit → List (Token × List Token)
  | .insert short words => [(short, words)]
  | .load read path =>
    match read path with
    | .ok (.file contents) => rulesUpToFault (lines contents)
    | _ => []

theorem extendLines_fst (a : Abbreviations) (n : Nat) (ls : List Bytes) :
    (a.extendLines n ls).1 = a.insertAll (rulesUpToFault ls) := by
  induction ls generalizing a n with
  | nil => rfl
  | cons line ls ih =>
    unfold extendLines rulesUpToFault
    cases readLine line with
    | error e => rfl
    | ok rule =>
      cases rule with
      | none => exact ih a (n + 1)
      | some rule => exact ih (a.insert rule.1 rule.2) (n + 1)

theorem Edit.run_eq_insertAll (a : Abbreviations) (e : Edit) : e.run a = a.insertAll e.rules := by
  cases e with
  | insert short words => rfl
  | load read path =>
    simp only [run, rules, extend]
    cases read path with
    | error reason => rfl
    | ok opened =>
      cases opened with
      | folder => rfl
      | file contents => exact extendLines_fst a 1 (lines contents)

/-- A run of changes comes to the insertion of all their rules. -/
theorem edit_eq_insertAll (a : Abbreviations) (edits : List Edit) :
    a.edit edits = a.insertAll (edits.flatMap Edit.rules) := by
  unfold edit
  induction edits generalizing a with
  | nil => rfl
  | cons e edits ih =>
    rw [List.foldl_cons, ih, e.run_eq_insertAll, List.flatMap_cons]
    unfold insertAll
    rw [List.foldl_append]

theorem expands_of_readLine {line : Bytes} {rule : Token × List Token}
    (h : readLine line = .ok (some rule)) : Expands rule.2 := by
  rcases readLine_cases line with ⟨e, -, hread⟩ | ⟨-, hread⟩ | ⟨short, word, words, hw, hread⟩
  · exact absurd (hread.symm.trans h) (by simp)
  · exact absurd (hread.symm.trans h) (by simp)
  · obtain rfl : (short, word :: words) = rule := by simpa using hread.symm.trans h
    obtain ⟨text, -, -, -, htext⟩ := hw
    refine ⟨List.cons_ne_nil _ _, fun w hmem => ?_⟩
    apply Text.mem_words (s := Text.trim text)
    rw [htext]
    exact List.mem_cons_of_mem short hmem

theorem expands_of_mem_rulesUpToFault {ls : List Bytes} {rule : Token × List Token}
    (h : rule ∈ rulesUpToFault ls) : Expands rule.2 := by
  induction ls with
  | nil => exact absurd h List.not_mem_nil
  | cons line ls ih =>
    unfold rulesUpToFault at h
    cases hread : readLine line with
    | error e =>
      rw [hread] at h
      exact absurd h List.not_mem_nil
    | ok found =>
      rw [hread] at h
      rcases List.mem_append.mp h with h | h
      · obtain rfl : found = some rule := Option.mem_toList.mp h
        exact expands_of_readLine hread
      · exact ih h

theorem Edit.expands_of_load {read : FileReader} {path : String} {rule : Token × List Token}
    (h : rule ∈ Edit.rules (.load read path)) : Expands rule.2 := by
  simp only [rules] at h
  split at h
  next => exact expands_of_mem_rulesUpToFault h
  next => exact absurd h List.not_mem_nil

theorem wellKeyed_builtIn : builtIn.WellKeyed := by
  have hnodup : builtIn.keys.Nodup := by decide +kernel
  have hlower : ∀ key ∈ builtIn.keys, Text.lowercase key = key := by decide +kernel
  exact ⟨hnodup, hlower⟩

theorem expands_builtIn : ∀ entry ∈ builtIn.entries, Expands entry.2 := by
  -- Evaluated as Booleans: `Expands` quantifies over characters.
  have hall : builtIn.entries.all (fun entry => !entry.2.isEmpty &&
      entry.2.all fun word => !word.isEmpty && word.all (!Text.isBlank ·)) = true := by
    decide +kernel
  intro entry hentry
  simpa [Expands] using List.all_eq_true.mp hall entry hentry

/-- The tables that a run of changes can start from. -/
def Start (a : Abbreviations) : Prop := a = builtIn ∨ a = empty

theorem Start.wellKeyed {a : Abbreviations} (h : a.Start) : a.WellKeyed := by
  rcases h with rfl | rfl
  · exact wellKeyed_builtIn
  · exact ⟨List.nodup_nil, fun _ hkey => absurd hkey List.not_mem_nil⟩

theorem Start.expands {a : Abbreviations} (h : a.Start) :
    ∀ entry ∈ a.entries, Expands entry.2 := by
  rcases h with rfl | rfl
  · exact expands_builtIn
  · exact fun _ hentry => absurd hentry List.not_mem_nil

/-- After any run of insertions and loads, successful or not, a table is what the inserted rules
make of the one it started from: the last rule for a short form counts. Short forms are distinct
and in lowercase, each entry is found, case does not matter for the search, and the size counts
the short forms ever present. Where only files were loaded, an expansion never loses a token. -/
theorem edit_last_rule_counts (start : Abbreviations) (edits : List Edit)
    (hstart : start = builtIn ∨ start = empty) :
    (∀ t, (start.edit edits).get? t =
      (((edits.flatMap Edit.rules).filter fun rule =>
        Text.lowercase rule.1 = Text.lowercase t).getLast?.map Prod.snd).or (start.get? t)) ∧
    ((start.edit edits).entries.map Prod.fst).Nodup ∧
    (∀ entry ∈ (start.edit edits).entries,
      Text.lowercase entry.1 = entry.1 ∧ (start.edit edits).get? entry.1 = some entry.2) ∧
    (start.edit edits).size = (start.entries.map Prod.fst ++
      (edits.flatMap Edit.rules).map fun rule => Text.lowercase rule.1).dedup.length ∧
    (∀ t, (start.edit edits).get? (Text.lowercase t) = (start.edit edits).get? t) ∧
    ((∀ e ∈ edits, ∃ read path, e = .load read path) →
      (∀ entry ∈ (start.edit edits).entries, entry.2 ≠ [] ∧
        ∀ word ∈ entry.2, word ≠ [] ∧ ∀ c ∈ word, Text.isBlank c = false) ∧
      ∀ ts, ts.length ≤ ((start.edit edits).expand ts).length) := by
  have hkeyed : (start.edit edits).WellKeyed := by
    rw [edit_eq_insertAll]
    exact (Start.wellKeyed hstart).insertAll _
  refine ⟨?_, hkeyed.nodup, ?_, ?_, get?_lowercase _, ?_⟩
  · intro t
    rw [edit_eq_insertAll]
    exact get?_insertAll start _ t
  · intro entry hentry
    exact ⟨hkeyed.lowercase entry.1 (List.mem_map_of_mem hentry), hkeyed.get?_of_mem hentry⟩
  · rw [edit_eq_insertAll]
    exact (Start.wellKeyed hstart).size_insertAll _
  · intro hloads
    have hrules : ∀ rule ∈ edits.flatMap Edit.rules, Expands rule.2 := by
      intro rule hrule
      obtain ⟨e, he, hrule⟩ := List.mem_flatMap.mp hrule
      obtain ⟨read, path, rfl⟩ := hloads e he
      exact Edit.expands_of_load hrule
    have hexpands : ∀ entry ∈ (start.edit edits).entries, Expands entry.2 := by
      rw [edit_eq_insertAll]
      exact expands_insertAll (Start.expands hstart) hrules
    exact ⟨hexpands, length_le_expand hexpands⟩

theorem edit_last_rule_counts_broken_load :
    (builtIn.edit
      [.load (fun _ => .ok (.file (Utf8.encode "DR drive\nbroken\n".toList))) "rules"]).get?
        "Dr".toList = some ["drive".toList] ∧
    ∀ ts, ts.length ≤ ((builtIn.edit
      [.load (fun _ => .ok (.file (Utf8.encode "DR drive\nbroken\n".toList))) "rules"]).expand
        ts).length := by
  have hrules : Edit.rules (.load (fun _ =>
      .ok (.file (Utf8.encode "DR drive\nbroken\n".toList))) "rules") =
        [("DR".toList, ["drive".toList])] := by decide +kernel
  have hload := edit_last_rule_counts builtIn
    [.load (fun _ => .ok (.file (Utf8.encode "DR drive\nbroken\n".toList))) "rules"] (Or.inl rfl)
  constructor
  · rw [hload.1, List.flatMap_singleton, hrules]
    decide +kernel
  · apply (hload.2.2.2.2.2 ?_).2
    intro e he
    exact ⟨_, _, List.mem_singleton.mp he⟩

end Stemming.Abbreviations
