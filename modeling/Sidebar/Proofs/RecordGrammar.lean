import Mathlib.Data.List.DropRight
import Mathlib.Data.List.Forall2
import Sidebar.Proofs.JsonObjects
import Sidebar.Proofs.ScalarGrammar
/-!
# What the readers of objects, arrays and records accept

The readers serde derives for the records of `crates/panelkit-core/src/config.rs`, run by
`serde_json::from_str`.

Objects and arrays are described by a grammar over the text, and the readers of objects of
string keys and of records are shown to take exactly what the grammar relates.

* `Members` and `ObjectText`: an opening brace, members each made of a quoted key, a colon
  and a value, separated by commas, and a closing brace; a comma must be followed by another
  member. `takes_entries_iff`: the entries reader takes the members in order, duplicates kept.
* `Items` and `ArrayText`: an opening bracket, items separated by commas, the `i`-th related
  by the `i`-th of a list of relations, and a closing bracket; there are no more items than
  relations.
* `RecordText`: a record is an object whose members with known keys are read by their
  fields' rules, no known key twice, unknown keys taking any JSON value and changing nothing;
  or an array of its fields in declaration order. Starting from the defaults, the changes are
  made in the order of the text. `takes_read_iff`: a record reader whose fields agree with
  the rules takes exactly the records that the grammar relates to the text.

A string key or value is what the string reader takes, and the value of an unknown key is
what the reader that skips values takes: their own grammars are not restated here.
-/

namespace Sidebar
namespace Json

theorem dropWhile_blank_cons {c : Char} {t : List Char} (hc : isBlank c = false) :
    (c :: t).dropWhile isBlank = c :: t := by
  rw [List.dropWhile_cons, hc]
  rfl

/-- A reader of punctuation left `rest`. -/
def Leaves {cs : List Char} (x : Except Fault (Rest cs)) (rest : List Char) : Prop :=
  ∃ r, x = .ok r ∧ r.1 = rest

theorem leaves_colon_iff {cs rest : List Char} :
    Leaves (colon cs) rest ↔ cs.dropWhile isBlank = ':' :: rest := by
  unfold colon Leaves
  split
  · next h =>
    rw [show cs.dropWhile isBlank = _ from h]
    simp
  · next c t h =>
    rw [show cs.dropWhile isBlank = _ from h]
    by_cases hc : c = ':'
    · subst hc
      simp
    · simp [hc]

theorem leaves_closeObject_iff {cs rest : List Char} :
    Leaves (closeObject cs) rest ↔ cs.dropWhile isBlank = '}' :: rest := by
  unfold closeObject Leaves
  split
  · next h =>
    rw [show cs.dropWhile isBlank = _ from h]
    simp
  · next c t h =>
    rw [show cs.dropWhile isBlank = _ from h]
    by_cases hc : c = '}'
    · subst hc
      simp
    · by_cases hcomma : c = ','
      · simp [hcomma]
      · simp [hc, hcomma]

theorem leaves_closeArray_iff {cs rest : List Char} :
    Leaves (closeArray cs) rest ↔ cs.dropWhile isBlank = ']' :: rest := by
  unfold closeArray Leaves
  split
  · next h =>
    rw [show cs.dropWhile isBlank = _ from h]
    simp
  · next c t h =>
    rw [show cs.dropWhile isBlank = _ from h]
    by_cases hc : c = ']'
    · subst hc
      simp
    · by_cases hcomma : c = ','
      · rw [if_neg hc, if_pos hcomma]
        refine iff_of_false ?_ (by simp [hc])
        rintro ⟨r, hr, -⟩
        split at hr
        · split at hr <;> cases hr
        · cases hr
      · simp [hc, hcomma]

/-- Where a member's key starts, its opening quotation mark taken: after the opening brace
(`first`), past white space; after a member, past white space, a comma and white space. -/
inductive KeyStart : Bool → List Char → List Char → Prop
  | first {cs u : List Char} : cs.dropWhile isBlank = '"' :: u → KeyStart true cs u
  | next {cs t u : List Char} : cs.dropWhile isBlank = ',' :: t → t.dropWhile isBlank = '"' :: u →
      KeyStart false cs u

theorem memberStart_eq_close {first : Bool} {cs : List Char} {r : Rest cs}
    (h : memberStart first cs = .ok (.close r)) :
    ∃ t, cs.dropWhile isBlank = '}' :: t ∧ r.1 = '}' :: t := by
  unfold memberStart at h
  split at h
  · cases h
  · next c t hc =>
    split_ifs at h with h1 h2
    · subst h1
      cases h
      exact ⟨t, hc, hc⟩
    · -- after a comma only a key is taken
      split at h
      · cases h
      · split_ifs at h
        cases h
    · cases h

theorem memberStart_eq_key {first : Bool} {cs : List Char} {k : Shorter cs}
    (h : memberStart first cs = .ok (.key k)) : KeyStart first cs k.1 := by
  unfold memberStart at h
  split at h
  · cases h
  · next c t hc =>
    split_ifs at h with h1 h2 h3 hq
    · cases h
    · split at h
      · cases h
      · next d u hd =>
        split_ifs at h with hdq
        cases h
        obtain ⟨rfl, hfirst⟩ := h2
        simp only [Bool.not_eq_eq_eq_not, Bool.not_true] at hfirst
        subst hfirst
        subst hdq
        exact .next hc hd
    · cases h
      subst h3
      subst hq
      exact .first hc

theorem memberStart_of_close {first : Bool} {cs t : List Char}
    (h : cs.dropWhile isBlank = '}' :: t) :
    ∃ r, memberStart first cs = .ok (.close r) ∧ r.1 = '}' :: t := by
  unfold memberStart
  split
  · next hc => rw [← skipBlank_val, hc] at h; cases h
  · next c u hc =>
    rw [← skipBlank_val, hc] at h
    obtain ⟨rfl, rfl⟩ := List.cons.inj h
    exact ⟨_, if_pos rfl, hc⟩

theorem memberStart_of_keyStart {first : Bool} {cs u : List Char} (h : KeyStart first cs u) :
    ∃ k, memberStart first cs = .ok (.key k) ∧ k.1 = u := by
  unfold memberStart
  cases h with
  | first hq =>
    split
    · next hc => rw [← skipBlank_val, hc] at hq; cases hq
    · next c t hc =>
      rw [← skipBlank_val, hc] at hq
      obtain ⟨rfl, rfl⟩ := List.cons.inj hq
      exact ⟨_, rfl, rfl⟩
  | @next _ t _ hcomma hq =>
    split
    · next hc => rw [← skipBlank_val, hc] at hcomma; cases hcomma
    · next c t' hc =>
      rw [← skipBlank_val, hc] at hcomma
      obtain ⟨rfl, rfl⟩ := List.cons.inj hcomma
      simp only [show (',' : Char) ≠ '}' by decide, if_false, Bool.not_false, and_self, if_true]
      split
      · next hd => rw [← skipBlank_val, hd] at hq; cases hq
      · next d r hd =>
        rw [← skipBlank_val, hd] at hq
        obtain ⟨rfl, rfl⟩ := List.cons.inj hq
        exact ⟨_, rfl, rfl⟩

section Objects

variable {β : Type}

/-- A member after the opening quotation mark of its key: the rest of the key, then past white
space a colon, then a value that `V` relates to the key. -/
def Member (V : String → List Char → β → List Char → Prop) (u : List Char) (m : String × β)
    (rest : List Char) : Prop :=
  ∃ w v, Takes (readString u) m.1 w ∧ w.dropWhile isBlank = ':' :: v ∧ V m.1 v m.2 rest

/-- The members of an object after its opening brace (`first`) or after a member, up to and
including its closing brace. -/
inductive Members (V : String → List Char → β → List Char → Prop) :
    Bool → List Char → List (String × β) → List Char → Prop
  | close {first : Bool} {cs rest : List Char} :
      cs.dropWhile isBlank = '}' :: rest → Members V first cs [] rest
  | cons {first : Bool} {cs u mid rest : List Char} {m : String × β} {ms : List (String × β)} :
      KeyStart first cs u → Member V u m mid → Members V false mid ms rest →
      Members V first cs (m :: ms) rest

/-- An object: past white space an opening brace, then its members. -/
def ObjectText (V : String → List Char → β → List Char → Prop) (cs : List Char)
    (ms : List (String × β)) (rest : List Char) : Prop :=
  ∃ t, cs.dropWhile isBlank = '{' :: t ∧ Members V true t ms rest

/-- Members are read as entries after those read before, up to the closing brace. -/
theorem entriesFrom_of_members {value : Reader β} {V : List Char → β → List Char → Prop}
    (hV : ∀ {cs v r}, V cs v r → Takes (value cs) v r) {first : Bool} {cs rest : List Char}
    {ms : List (String × β)} (h : Members (fun _ => V) first cs ms rest) :
    ∀ acc, Takes (entriesFrom value first acc cs) (acc.reverse ++ ms) ('}' :: rest) := by
  induction h with
  | close hc =>
    intro acc
    obtain ⟨r, hr, hr1⟩ := memberStart_of_close hc
    rw [entriesFrom, hr]
    exact ⟨r, by simp, hr1⟩
  | @cons first cs u mid rest m ms hkey hm _ ih =>
    intro acc
    obtain ⟨k, hk, rfl⟩ := memberStart_of_keyStart hkey
    obtain ⟨w, v, ⟨r1, hr1, rfl⟩, hcolon, hval⟩ := hm
    obtain ⟨r2, hr2, rfl⟩ := leaves_colon_iff.2 hcolon
    obtain ⟨r3, hr3, rfl⟩ := hV hval
    rw [entriesFrom, hk]
    simp only [hr1, hr2, hr3]
    have htail := ih ((m.1, m.2) :: acc)
    rw [List.reverse_cons, List.append_assoc, List.singleton_append] at htail
    exact htail.widen _

/-- What the entries reader takes are members of an object, after those read before. -/
theorem members_of_entriesFrom {value : Reader β} {V : List Char → β → List Char → Prop}
    (hV : ∀ {cs v r}, Takes (value cs) v r → V cs v r) {first : Bool} {acc : List (String × β)}
    {cs : List Char} {es : List (String × β)} {r : List Char}
    (h : Takes (entriesFrom value first acc cs) es r) :
    ∃ ms rest, r = '}' :: rest ∧ Members (fun _ => V) first cs ms rest ∧ es = acc.reverse ++ ms := by
  fun_induction entriesFrom value first acc cs generalizing es r with
  | case1 => exact absurd h not_takes_error
  | case2 first acc cs r' hms =>
    rw [takes_ok_iff] at h
    obtain ⟨rfl, rfl⟩ := h
    obtain ⟨t, ht, hr'⟩ := memberStart_eq_close hms
    exact ⟨[], t, hr', .close ht, by simp⟩
  | case3 | case4 | case5 => exact absurd h not_takes_error
  | case6 first acc cs k hms name r1 hstr r2 hcolon v r3 hval ih =>
    obtain ⟨ms, rest, rfl, hmembers, rfl⟩ := ih ((takes_widen_iff _).1 h)
    refine ⟨(name, v) :: ms, rest, rfl, .cons (memberStart_eq_key hms)
      ⟨r1.1, r2.1, ⟨r1, hstr, rfl⟩, leaves_colon_iff.1 ⟨r2, hcolon, rfl⟩, hV ⟨r3, hval, rfl⟩⟩ hmembers, ?_⟩
    simp

/-- **An object of string keys is read** exactly as its members, in order, duplicates kept. -/
theorem takes_entries_iff {value : Reader β} {V : List Char → β → List Char → Prop}
    (hV : ∀ {cs v r}, Takes (value cs) v r ↔ V cs v r) {cs rest : List Char}
    {es : List (String × β)} :
    Takes (entries value cs) es rest ↔ ObjectText (fun _ => V) cs es rest := by
  unfold entries ObjectText
  split
  · next h =>
    rw [show cs.dropWhile isBlank = _ from h]
    exact iff_of_false not_takes_error (by simp)
  · next c t h =>
    rw [show cs.dropWhile isBlank = _ from h]
    by_cases hc : c = '{'
    · subst hc
      simp only [if_true, List.cons.injEq, true_and, exists_eq_left']
      constructor
      · rintro ⟨r, hr, rfl⟩
        split at hr
        · cases hr
        · next es' r' hread =>
          split at hr
          · cases hr
          · next r2 hclose =>
            cases hr
            obtain ⟨ms, rest', hr', hmembers, rfl⟩ := members_of_entriesFrom hV.1 ⟨r', hread, rfl⟩
            have hrest := leaves_closeObject_iff.1 ⟨r2, hclose, rfl⟩
            show Members _ true t es r2.1
            generalize r2.1 = s at hrest ⊢
            rw [hr', dropWhile_blank_cons rfl] at hrest
            obtain ⟨-, rfl⟩ := List.cons.inj hrest
            simpa using hmembers
      · intro hmembers
        obtain ⟨r, hr, hr1⟩ := entriesFrom_of_members hV.2 hmembers []
        obtain ⟨r2, hr2, hr2'⟩ := leaves_closeObject_iff.2 (show r.1.dropWhile isBlank = '}' :: rest by
          rw [hr1]; rfl)
        simp only [List.reverse_nil, List.nil_append] at hr
        rw [hr]
        simp only [hr2]
        exact ⟨_, rfl, hr2'⟩
    · rw [if_neg hc]
      exact iff_of_false not_takes_error (by simp [hc])

end Objects

section Records

variable {σ : Type}

/-- A field of a record as the grammar sees it: its key, and the texts of its values, each with
the change it makes to the record and what follows it. -/
structure FieldRule (σ : Type) where
  name : String
  value : List Char → (σ → σ) → List Char → Prop

/-- A field of a reader and a rule of the grammar agree: one key, and the field's reader takes
exactly the changes that the rule relates. -/
def Field.Agrees (fld : Field σ) (rule : FieldRule σ) : Prop :=
  fld.name = rule.name ∧ ∀ cs f r, Takes (fld.value cs) f r ↔ rule.value cs f r

/-- A well-formed JSON value at the front of the text, past white space, as it is skipped. -/
def SkipsValue (cs rest : List Char) : Prop := ∃ r, skipValue cs = .ok r ∧ r.1 = rest

/-- The value of a member of a record's object, as a change: a known key's value is read by its
field's rule; an unknown key's value is any JSON value and changes nothing. -/
def memberRule (rules : List (FieldRule σ)) (key : String) (cs : List Char) (f : σ → σ)
    (rest : List Char) : Prop :=
  match rules.find? (·.name = key) with
  | some rule => rule.value cs f rest
  | none => f = id ∧ SkipsValue cs rest

/-- The keys of the members that name a field. -/
def knownKeys (rules : List (FieldRule σ)) (ms : List (String × (σ → σ))) : List String :=
  (ms.map Prod.fst).filter fun k => k ∈ rules.map FieldRule.name

/-- Where an item starts: right after the opening bracket (`first`), or after an item past
white space and a comma. -/
inductive ItemStart : Bool → List Char → List Char → Prop
  | first {cs : List Char} : ItemStart true cs cs
  | next {cs t : List Char} : cs.dropWhile isBlank = ',' :: t → ItemStart false cs t

/-- The items of an array after its opening bracket (`first`) or after an item, up to and
including its closing bracket, each related by the next relation of `Vs`: there are no more
items than relations. -/
inductive Items {γ : Type} :
    List (List Char → γ → List Char → Prop) → Bool → List Char → List γ → List Char → Prop
  | close {Vs : List (List Char → γ → List Char → Prop)} {first : Bool} {cs rest : List Char} :
      cs.dropWhile isBlank = ']' :: rest → Items Vs first cs [] rest
  | cons {V : List Char → γ → List Char → Prop} {Vs : List (List Char → γ → List Char → Prop)}
      {first : Bool} {cs t mid rest : List Char} {x : γ} {xs : List γ} :
      ItemStart first cs t → V t x mid → Items Vs false mid xs rest →
      Items (V :: Vs) first cs (x :: xs) rest

/-- An array: past white space an opening bracket, then its items. -/
def ArrayText {γ : Type} (Vs : List (List Char → γ → List Char → Prop)) (cs : List Char)
    (xs : List γ) (rest : List Char) : Prop :=
  ∃ t, cs.dropWhile isBlank = '[' :: t ∧ Items Vs true t xs rest

/-- A record as a value: an object whose known keys are distinct, each member changing the
record in turn from `init`; or an array of at most as many items as there are fields, each
item read by the rule of the field in its place. -/
def RecordText (rules : List (FieldRule σ)) (init : σ) (cs : List Char) (st : σ)
    (rest : List Char) : Prop :=
  (∃ ms, ObjectText (memberRule rules) cs ms rest ∧ (knownKeys rules ms).Nodup ∧
      st = ms.foldl (fun s m => m.2 s) init) ∨
  (∃ fs, ArrayText (rules.map FieldRule.value) cs fs rest ∧ st = fs.foldl (fun s f => f s) init)

/-- A relation of values past white space: white space before the value changes nothing, and
the value starts with a character other than a closing bracket. -/
structure ValueRel {γ : Type} (V : List Char → γ → List Char → Prop) : Prop where
  dropBlank : ∀ cs x r, V (cs.dropWhile isBlank) x r ↔ V cs x r
  opens : ∀ {cs x r}, V cs x r → ∃ c t, cs.dropWhile isBlank = c :: t ∧ c ≠ ']'

section ItemsInversion

variable {γ : Type} {V : List Char → γ → List Char → Prop}
  {Vs : List (List Char → γ → List Char → Prop)} {first : Bool} {cs rest : List Char} {xs : List γ}

/-- Without text no items follow: not even the closing bracket. -/
theorem not_items_of_nil (hV : ValueRel V) (h : cs.dropWhile isBlank = []) :
    ¬Items (V :: Vs) first cs xs rest := by
  intro hitems
  cases hitems with
  | close hc => rw [h] at hc; cases hc
  | cons hstart hv _ =>
    cases hstart with
    | first =>
      obtain ⟨c, t, hct, -⟩ := hV.opens hv
      rw [h] at hct
      cases hct
    | next hc => rw [h] at hc; cases hc

/-- At a closing bracket the items end: no item starts with one. -/
theorem items_of_close_iff (hV : ValueRel V) {t : List Char} (h : cs.dropWhile isBlank = ']' :: t) :
    Items (V :: Vs) first cs xs rest ↔ xs = [] ∧ rest = t := by
  constructor
  · intro hitems
    cases hitems with
    | close hc =>
      rw [h] at hc
      exact ⟨rfl, (List.cons.inj hc).2.symm⟩
    | cons hstart hv _ =>
      cases hstart with
      | first =>
        obtain ⟨c, u, hcu, hne⟩ := hV.opens hv
        rw [h] at hcu
        exact absurd (List.cons.inj hcu).1.symm hne
      | next hc => rw [h] at hc; cases hc
  · rintro ⟨rfl, rfl⟩
    exact .close h

/-- After an item, a comma is followed by the next item. -/
theorem items_of_comma_iff {t : List Char} (h : cs.dropWhile isBlank = ',' :: t) :
    Items (V :: Vs) false cs xs rest ↔
      ∃ x mid xs', xs = x :: xs' ∧ V t x mid ∧ Items Vs false mid xs' rest := by
  constructor
  · intro hitems
    cases hitems with
    | close hc => rw [h] at hc; cases hc
    | cons hstart hv hitems =>
      cases hstart with
      | next hc =>
        rw [h] at hc
        obtain ⟨-, rfl⟩ := List.cons.inj hc
        exact ⟨_, _, _, rfl, hv, hitems⟩
  · rintro ⟨x, mid, xs', rfl, hv, hitems⟩
    exact .cons (.next h) hv hitems

/-- After the opening bracket, anything but a closing bracket starts the first item. -/
theorem items_first_iff {c : Char} {u : List Char} (h : cs.dropWhile isBlank = c :: u)
    (hc : c ≠ ']') :
    Items (V :: Vs) true cs xs rest ↔
      ∃ x mid xs', xs = x :: xs' ∧ V cs x mid ∧ Items Vs false mid xs' rest := by
  constructor
  · intro hitems
    cases hitems with
    | close hclose =>
      rw [h] at hclose
      exact absurd (List.cons.inj hclose).1 hc
    | cons hstart hv hitems =>
      cases hstart with
      | first => exact ⟨_, _, _, rfl, hv, hitems⟩
  · rintro ⟨x, mid, xs', rfl, hv, hitems⟩
    exact .cons .first hv hitems

/-- After an item, only a comma or the closing bracket may follow. -/
theorem not_items_after_item {c : Char} {u : List Char} (h : cs.dropWhile isBlank = c :: u)
    (hclose : c ≠ ']') (hcomma : c ≠ ',') : ¬Items Vs false cs xs rest := by
  intro hitems
  cases hitems with
  | close hc =>
    rw [h] at hc
    exact hclose (List.cons.inj hc).1
  | cons hstart _ _ =>
    cases hstart with
    | next hc =>
      rw [h] at hc
      exact hcomma (List.cons.inj hc).1

end ItemsInversion

/-- Fields and rules that agree pair up by key. -/
theorem find?_agrees {fs : List (Field σ)} {rules : List (FieldRule σ)}
    (h : List.Forall₂ Field.Agrees fs rules) (key : String) :
    Option.Rel Field.Agrees (fs.find? (·.name = key)) (rules.find? (·.name = key)) := by
  induction h with
  | nil => exact .none
  | @cons fld rule fs rules hfr _ ih =>
    by_cases hk : rule.name = key
    · have hk' : fld.name = key := hfr.1.trans hk
      simp only [List.find?_cons, hk, hk', decide_true]
      exact .some hfr
    · have hk' : ¬fld.name = key := fun h => hk (hfr.1.symm.trans h)
      simp only [List.find?_cons, hk, hk', decide_false]
      exact ih

theorem mem_names_of_find? {rules : List (FieldRule σ)} {key : String} {rule : FieldRule σ}
    (h : rules.find? (·.name = key) = some rule) : key ∈ rules.map FieldRule.name := by
  have hmem := List.mem_of_find?_eq_some h
  have hname : rule.name = key := by simpa using List.find?_some h
  exact List.mem_map.2 ⟨rule, hmem, hname⟩

theorem not_mem_names_of_find? {rules : List (FieldRule σ)} {key : String}
    (h : rules.find? (·.name = key) = none) : key ∉ rules.map FieldRule.name := by
  intro hmem
  obtain ⟨rule, hrule, hname⟩ := List.mem_map.1 hmem
  have := List.find?_eq_none.1 h rule hrule
  simp [hname] at this

theorem knownKeys_cons_of_find? {rules : List (FieldRule σ)} {key : String} {rule : FieldRule σ}
    (h : rules.find? (·.name = key) = some rule) (f : σ → σ) (ms : List (String × (σ → σ))) :
    knownKeys rules ((key, f) :: ms) = key :: knownKeys rules ms := by
  have hk : decide (key ∈ rules.map FieldRule.name) = true := decide_eq_true (mem_names_of_find? h)
  simp only [knownKeys, List.map_cons, List.filter_cons, hk, if_true]

theorem knownKeys_cons_of_find?_none {rules : List (FieldRule σ)} {key : String}
    (h : rules.find? (·.name = key) = none) (f : σ → σ) (ms : List (String × (σ → σ))) :
    knownKeys rules ((key, f) :: ms) = knownKeys rules ms := by
  have hk : decide (key ∈ rules.map FieldRule.name) = false :=
    decide_eq_false (not_mem_names_of_find? h)
  simp only [knownKeys, List.map_cons, List.filter_cons, hk, Bool.false_eq_true, if_false]

/-- The keys still to come are distinct and unseen exactly when, once the next one is read, it
was unseen and the others are distinct and unseen still. -/
theorem fresh_cons_iff {key : String} {ks seen : List String} :
    ((key :: ks).Nodup ∧ ∀ k ∈ key :: ks, k ∉ seen) ↔
      key ∉ seen ∧ ks.Nodup ∧ ∀ k ∈ ks, k ∉ key :: seen := by
  simp only [List.nodup_cons, List.mem_cons, forall_eq_or_imp, not_or]
  constructor
  · rintro ⟨⟨hkey, hnodup⟩, hseen, hfresh⟩
    exact ⟨hseen, hnodup, fun k hk => ⟨fun h => hkey (h ▸ hk), hfresh k hk⟩⟩
  · rintro ⟨hseen, hnodup, hfresh⟩
    exact ⟨⟨fun hk => (hfresh key hk).1 rfl, hnodup⟩, hseen, fun k hk => (hfresh k hk).2⟩

end Records

section RecordReading

variable {σ : Type} {rec : Record σ} {rules : List (FieldRule σ)}

theorem find?_rule_of_field (hagree : List.Forall₂ Field.Agrees rec.fields rules) {key : String}
    {fld : Field σ} (hfld : rec.fields.find? (·.name = key) = some fld) :
    ∃ rule, rules.find? (·.name = key) = some rule ∧ fld.Agrees rule := by
  have hrel := find?_agrees hagree key
  rw [hfld] at hrel
  generalize rules.find? (·.name = key) = b at hrel
  cases hrel with
  | some hfr => exact ⟨_, rfl, hfr⟩

theorem find?_field_of_rule (hagree : List.Forall₂ Field.Agrees rec.fields rules) {key : String}
    {rule : FieldRule σ} (hrule : rules.find? (·.name = key) = some rule) :
    ∃ fld, rec.fields.find? (·.name = key) = some fld ∧ fld.Agrees rule := by
  have hrel := find?_agrees hagree key
  rw [hrule] at hrel
  generalize rec.fields.find? (·.name = key) = a at hrel
  cases hrel with
  | some hfr => exact ⟨_, rfl, hfr⟩

theorem find?_field_eq_none (hagree : List.Forall₂ Field.Agrees rec.fields rules) {key : String} :
    rec.fields.find? (·.name = key) = none ↔ rules.find? (·.name = key) = none := by
  have hrel := find?_agrees hagree key
  generalize rec.fields.find? (·.name = key) = a at hrel ⊢
  generalize rules.find? (·.name = key) = b at hrel ⊢
  cases hrel <;> simp

/-- Members of a record's object whose known keys are distinct and were not seen before are
read, each change made in turn, up to the closing brace. -/
theorem members_of_text (hagree : List.Forall₂ Field.Agrees rec.fields rules) {first : Bool}
    {cs rest : List Char} {ms : List (String × (σ → σ))}
    (h : Members (memberRule rules) first cs ms rest) :
    ∀ (seen : List String) (st : σ), (knownKeys rules ms).Nodup →
      (∀ k ∈ knownKeys rules ms, k ∉ seen) →
      Takes (rec.members first seen st cs) (ms.foldl (fun s m => m.2 s) st) ('}' :: rest) := by
  induction h with
  | close hc =>
    intro seen st _ _
    obtain ⟨r, hr, hr1⟩ := memberStart_of_close hc
    rw [Record.members, hr]
    exact ⟨r, rfl, hr1⟩
  | @cons first cs u mid rest m ms hkey hm _ ih =>
    intro seen st hnodup hfresh
    obtain ⟨key, f⟩ := m
    obtain ⟨k, hk, rfl⟩ := memberStart_of_keyStart hkey
    obtain ⟨w, v, ⟨r1, hr1, rfl⟩, hcolon, hval⟩ := hm
    obtain ⟨r2, hr2, rfl⟩ := leaves_colon_iff.2 hcolon
    rw [Record.members, hk]
    simp only [hr1]
    cases hrule : rules.find? (·.name = key) with
    | none =>
      -- an unknown key: its value is skipped and the record kept
      have hfld := (find?_field_eq_none hagree).2 hrule
      simp only [memberRule, hrule] at hval
      obtain ⟨rfl, r3, hr3, rfl⟩ := hval
      rw [knownKeys_cons_of_find?_none hrule] at hnodup hfresh
      simp only [hfld, hr2, hr3]
      exact (ih seen st hnodup hfresh).widen _
    | some rule =>
      -- a known key, not seen before: its value is read by the field's reader
      obtain ⟨fld, hfld, hfr⟩ := find?_field_of_rule hagree hrule
      simp only [memberRule, hrule] at hval
      rw [knownKeys_cons_of_find? hrule] at hnodup hfresh
      obtain ⟨hseen, hnodup', hfresh'⟩ := fresh_cons_iff.1 ⟨hnodup, hfresh⟩
      obtain ⟨r3, hr3, rfl⟩ := (hfr.2 _ _ _).2 hval
      simp only [hfld, if_neg hseen, hr2, hr3]
      exact (ih (key :: seen) (f st) hnodup' hfresh').widen _

/-- What the members reader takes are members of an object whose known keys are distinct and
were not seen before, their changes made in turn. -/
theorem text_of_members (hagree : List.Forall₂ Field.Agrees rec.fields rules) {first : Bool}
    {seen : List String} {st : σ} {cs : List Char} {st' : σ} {r : List Char}
    (h : Takes (rec.members first seen st cs) st' r) :
    ∃ ms rest, r = '}' :: rest ∧ Members (memberRule rules) first cs ms rest ∧
      (knownKeys rules ms).Nodup ∧ (∀ k ∈ knownKeys rules ms, k ∉ seen) ∧
      st' = ms.foldl (fun s m => m.2 s) st := by
  fun_induction rec.members first seen st cs generalizing st' r with
  | case1 | case3 | case4 | case5 | case6 | case8 | case9 => exact absurd h not_takes_error
  | case2 first seen st cs r' hms =>
    rw [takes_ok_iff] at h
    obtain ⟨rfl, rfl⟩ := h
    obtain ⟨t, ht, hr'⟩ := memberStart_eq_close hms
    exact ⟨[], t, hr', .close ht, List.nodup_nil, by simp [knownKeys], rfl⟩
  | case7 first seen st cs k hms name r1 hstr fld hfld hseen r2 hcolon change r3 hval ih =>
    obtain ⟨ms, rest, rfl, hmembers, hnodup, hfresh, rfl⟩ := ih ((takes_widen_iff _).1 h)
    obtain ⟨rule, hrule, hfr⟩ := find?_rule_of_field hagree hfld
    have hvalue : memberRule rules name r2.1 change r3.1 := by
      simp only [memberRule, hrule]
      exact (hfr.2 _ _ _).1 ⟨r3, hval, rfl⟩
    obtain ⟨hnodup', hfresh'⟩ := fresh_cons_iff.2 ⟨hseen, hnodup, hfresh⟩
    refine ⟨(name, change) :: ms, rest, rfl, .cons (memberStart_eq_key hms)
      ⟨r1.1, r2.1, ⟨r1, hstr, rfl⟩, leaves_colon_iff.1 ⟨r2, hcolon, rfl⟩, hvalue⟩ hmembers,
      ?_, ?_, rfl⟩
    · rwa [knownKeys_cons_of_find? hrule]
    · rwa [knownKeys_cons_of_find? hrule]
  | case10 first seen st cs k hms name r1 hstr hfld r2 hcolon r3 hskip ih =>
    obtain ⟨ms, rest, rfl, hmembers, hnodup, hfresh, rfl⟩ := ih ((takes_widen_iff _).1 h)
    have hrule := (find?_field_eq_none hagree).1 hfld
    have hvalue : memberRule rules name r2.1 id r3.1 := by
      simp only [memberRule, hrule]
      exact ⟨trivial, r3, hskip, rfl⟩
    refine ⟨(name, id) :: ms, rest, rfl, .cons (memberStart_eq_key hms)
      ⟨r1.1, r2.1, ⟨r1, hstr, rfl⟩, leaves_colon_iff.1 ⟨r2, hcolon, rfl⟩, hvalue⟩ hmembers,
      ?_, ?_, rfl⟩
    · rwa [knownKeys_cons_of_find?_none hrule]
    · rwa [knownKeys_cons_of_find?_none hrule]

/-- **The items of an array are read** as the fields in order exactly as the grammar relates
them, up to the closing bracket: the items may run out before the fields do, never after. -/
theorem elements_iff {fs : List (Field σ)} {rules : List (FieldRule σ)}
    (hagree : List.Forall₂ Field.Agrees fs rules)
    (hvalues : ∀ rule ∈ rules, ValueRel rule.value) :
    ∀ (first : Bool) (st : σ) (cs : List Char) (st' : σ) (rest : List Char),
      (∃ r, Takes (Record.elements fs first st cs) st' r ∧ Leaves (closeArray r) rest) ↔
        ∃ xs, Items (rules.map FieldRule.value) first cs xs rest ∧
          st' = xs.foldl (fun s f => f s) st := by
  induction hagree with
  | nil =>
    intro first st cs st' rest
    simp only [Record.elements, List.map_nil]
    constructor
    · rintro ⟨r, hr, hclose⟩
      rw [takes_ok_iff] at hr
      obtain ⟨rfl, rfl⟩ := hr
      exact ⟨[], .close (leaves_closeArray_iff.1 hclose), rfl⟩
    · rintro ⟨xs, hitems, rfl⟩
      cases hitems with
      | close hc => exact ⟨cs, ⟨_, rfl, rfl⟩, leaves_closeArray_iff.2 hc⟩
  | @cons fld rule fs rules hfr _ ih =>
    intro first st cs st' rest
    have hV : ValueRel rule.value := hvalues rule List.mem_cons_self
    have ih' := ih fun r hr => hvalues r (List.mem_cons_of_mem _ hr)
    -- an item read by this field: the rule read at the first character past white space
    have hitem : ∀ {t : List Char} {d : Char} {u : List Char}, t.dropWhile isBlank = d :: u →
        ∀ change mid, Takes (fld.value (d :: u)) change mid ↔ rule.value t change mid := by
      intro t d u ht change mid
      rw [hfr.2, ← hV.dropBlank t, ht]
    rw [List.map_cons, Record.elements]
    split
    · next h =>
      exact iff_of_false (fun ⟨r, hr, _⟩ => not_takes_error hr)
        fun ⟨xs, hitems, _⟩ => not_items_of_nil hV h hitems
    · next c t h =>
      have hd : cs.dropWhile isBlank = c :: t := h
      by_cases hclose : c = ']'
      · -- the closing bracket: no more items
        subst hclose
        rw [if_pos rfl]
        simp only [items_of_close_iff hV hd]
        constructor
        · rintro ⟨r, hr, hleaves⟩
          rw [takes_ok_iff] at hr
          obtain ⟨rfl, rfl⟩ := hr
          have hend : (cs.dropWhile isBlank).dropWhile isBlank = ']' :: rest :=
            leaves_closeArray_iff.1 hleaves
          rw [hd, dropWhile_blank_cons rfl] at hend
          exact ⟨[], ⟨rfl, (List.cons.inj hend).2.symm⟩, rfl⟩
        · rintro ⟨xs, ⟨rfl, rfl⟩, rfl⟩
          refine ⟨_, ⟨_, rfl, rfl⟩, leaves_closeArray_iff.2 ?_⟩
          rw [show ((skipBlank cs).widen (length_le_self cs)).1 = cs.dropWhile isBlank from rfl,
            List.dropWhile_idempotent]
          exact hd
      rw [if_neg hclose]
      by_cases hcomma : c = ',' ∧ !first
      · -- a comma, then past white space the next item
        obtain ⟨rfl, hfirst⟩ := hcomma
        simp only [Bool.not_eq_eq_eq_not, Bool.not_true] at hfirst
        subst hfirst
        rw [if_pos ⟨rfl, rfl⟩]
        simp only [items_of_comma_iff hd]
        split
        · next h2 =>
          refine iff_of_false (fun ⟨r, hr, _⟩ => not_takes_error hr) ?_
          rintro ⟨-, ⟨x, mid, xs', -, hv, -⟩, -⟩
          obtain ⟨d, u, hdu, -⟩ := hV.opens hv
          rw [show t.dropWhile isBlank = [] from h2] at hdu
          cases hdu
        · next d u h2 =>
          have ht : t.dropWhile isBlank = d :: u := h2
          by_cases hdc : d = ']'
          · -- a comma before the closing bracket
            rw [if_pos hdc]
            refine iff_of_false (fun ⟨r, hr, _⟩ => not_takes_error hr) ?_
            rintro ⟨-, ⟨x, mid, xs', -, hv, -⟩, -⟩
            obtain ⟨d', u', hdu, hne⟩ := hV.opens hv
            rw [ht] at hdu
            exact hne ((List.cons.inj hdu).1 ▸ hdc)
          rw [if_neg hdc]
          constructor
          · rintro ⟨r', hr', hleaves⟩
            split at hr'
            · exact absurd hr' not_takes_error
            · next change r2 hval =>
              obtain ⟨xs, hitems, rfl⟩ := (ih' false (change st) r2.1 st' rest).1
                ⟨r', (takes_widen_iff _).1 hr', hleaves⟩
              exact ⟨change :: xs, ⟨change, r2.1, xs, rfl,
                (hitem ht change r2.1).1 ⟨r2, hval, rfl⟩, hitems⟩, rfl⟩
          · rintro ⟨-, ⟨x, mid, xs, rfl, hv, hitems⟩, rfl⟩
            obtain ⟨r2, hval, rfl⟩ := (hitem ht x mid).2 hv
            obtain ⟨r', hr', hleaves⟩ := (ih' false (x st) r2.1 _ rest).2 ⟨xs, hitems, rfl⟩
            refine ⟨r', ?_, hleaves⟩
            simp only [hval]
            exact hr'.widen _
      rw [if_neg hcomma]
      cases first with
      | false =>
        -- after an item only a comma or the closing bracket may follow
        simp only [Bool.false_eq_true, if_false]
        exact iff_of_false (fun ⟨r, hr, _⟩ => not_takes_error hr)
          fun ⟨xs, hitems, _⟩ => not_items_after_item hd hclose (fun h => hcomma ⟨h, rfl⟩) hitems
      | true =>
        -- the first item, right after the opening bracket
        rw [if_pos rfl]
        simp only [items_first_iff hd hclose]
        constructor
        · rintro ⟨r', hr', hleaves⟩
          split at hr'
          · exact absurd hr' not_takes_error
          · next change r2 hval =>
            obtain ⟨xs, hitems, rfl⟩ := (ih' false (change st) r2.1 st' rest).1
              ⟨r', (takes_widen_iff _).1 hr', hleaves⟩
            exact ⟨change :: xs, ⟨change, r2.1, xs, rfl,
              (hitem hd change r2.1).1 ⟨r2, hval, rfl⟩, hitems⟩, rfl⟩
        · rintro ⟨-, ⟨x, mid, xs, rfl, hv, hitems⟩, rfl⟩
          obtain ⟨r2, hval, rfl⟩ := (hitem hd x mid).2 hv
          obtain ⟨r', hr', hleaves⟩ := (ih' false (x st) r2.1 _ rest).2 ⟨xs, hitems, rfl⟩
          refine ⟨r', ?_, hleaves⟩
          simp only [hval]
          exact hr'.widen _

/-- **A record is read** exactly from the texts that the grammar relates to it: an object or an
array of its fields, each value read by its field's rule. -/
theorem takes_read_iff (hagree : List.Forall₂ Field.Agrees rec.fields rules)
    (hvalues : ∀ rule ∈ rules, ValueRel rule.value) {cs rest : List Char} {st : σ} :
    Takes (rec.read cs) st rest ↔ RecordText rules rec.init cs st rest := by
  unfold Record.read RecordText ObjectText ArrayText
  split
  · next h =>
    rw [show cs.dropWhile isBlank = _ from h]
    exact iff_of_false not_takes_error (by simp)
  · next c t h =>
    rw [show cs.dropWhile isBlank = _ from h]
    by_cases hb : c = '['
    · -- an array of the fields
      subst hb
      rw [if_pos rfl]
      constructor
      · rintro ⟨r, hr, rfl⟩
        split at hr
        · cases hr
        · next st'' r' hel =>
          split at hr
          · cases hr
          · next r2 hclose =>
            cases hr
            obtain ⟨xs, hitems, rfl⟩ := (elements_iff hagree hvalues true rec.init t _ r2.1).1
              ⟨r', ⟨r', hel, rfl⟩, ⟨r2, hclose, rfl⟩⟩
            exact .inr ⟨xs, ⟨t, rfl, hitems⟩, rfl⟩
      · rintro (⟨ms, ⟨u, hu, -⟩, -⟩ | ⟨xs, ⟨u, hu, hitems⟩, rfl⟩)
        · exact absurd (List.cons.inj hu).1 (by decide)
        · obtain ⟨-, rfl⟩ := List.cons.inj hu
          obtain ⟨r', ⟨r, hel, rfl⟩, ⟨r2, hclose, rfl⟩⟩ :=
            (elements_iff hagree hvalues true rec.init t _ rest).2 ⟨xs, hitems, rfl⟩
          simp only [hel, hclose]
          exact ⟨_, rfl, rfl⟩
    rw [if_neg hb]
    by_cases hbrace : c = '{'
    · -- an object of members
      subst hbrace
      rw [if_pos rfl]
      constructor
      · rintro ⟨r, hr, rfl⟩
        split at hr
        · cases hr
        · next st'' r' hmem =>
          split at hr
          · cases hr
          · next r2 hclose =>
            cases hr
            obtain ⟨ms, rest', hr', hmembers, hnodup, -, rfl⟩ := text_of_members hagree ⟨r', hmem, rfl⟩
            have hrest : r'.1.dropWhile isBlank = '}' :: r2.1 := leaves_closeObject_iff.1 ⟨r2, hclose, rfl⟩
            have hend : r2.1 = rest' := by
              generalize r2.1 = s at hrest
              rw [hr', dropWhile_blank_cons rfl] at hrest
              exact (List.cons.inj hrest).2.symm
            refine .inl ⟨ms, ⟨t, rfl, ?_⟩, hnodup, rfl⟩
            show Members _ true t ms r2.1
            rw [hend]
            exact hmembers
      · rintro (⟨ms, ⟨u, hu, hmembers⟩, hnodup, rfl⟩ | ⟨xs, ⟨u, hu, -⟩, -⟩)
        · obtain ⟨-, rfl⟩ := List.cons.inj hu
          obtain ⟨r, hr, hr1⟩ := members_of_text hagree hmembers [] rec.init hnodup (by simp)
          obtain ⟨r2, hr2, rfl⟩ := leaves_closeObject_iff.2
            (show r.1.dropWhile isBlank = '}' :: rest by rw [hr1]; exact dropWhile_blank_cons rfl)
          simp only [hr, hr2]
          exact ⟨_, rfl, rfl⟩
        · exact absurd (List.cons.inj hu).1 (by decide)
    · -- any other value is no record
      rw [if_neg hbrace]
      exact iff_of_false not_takes_error (by simp [hb, hbrace])

end RecordReading

end Json
end Sidebar
