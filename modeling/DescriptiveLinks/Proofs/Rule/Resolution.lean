import Mathlib.Data.List.Induction
import Mathlib.Data.String.Basic
import DescriptiveLinks.Rule.Configuration

/-! # What a configuration says about the rule

The entries of a configuration are visited one after the other, but what comes of them is a law
about keys and their values: it asks which keys name the rule and what the switches say, and not
where in the file an entry stands.

* `Json.lastOf?` is the value that an object has under a key.
* `Configuration.Resolves` is the law.
* `Configuration.foldlM_addEntry` says what visiting entries leads to.
* `Configuration.optionsOfJson_eq_iff_resolves` says that the law holds. -/

namespace DescriptiveLinks

/-! ## Values under keys -/

namespace Json

/-- The value of the **last member with a key**, if there is one. -/
def lastOf? (members : List (String × Value)) (key : String) : Option Value :=
  ((members.filter fun m => m.1 = key).getLast?).map Prod.snd

theorem lastOf?_append_singleton (members : List (String × Value)) (m : String × Value)
    (key : String) :
    lastOf? (members ++ [m]) key = if m.1 = key then some m.2 else lastOf? members key := by
  by_cases h : m.1 = key
  · simp [lastOf?, h]
  · simp [lastOf?, h]

/-- The entries of an object are the last members with their keys. -/
theorem getElem?_entries (members : List (String × Value)) (key : String) :
    (entries members)[key]? = lastOf? members key := by
  -- The induction is from the end, because a member replaces those before it with its key.
  induction members using List.reverseRecOn with
  | nil => rfl
  | append_singleton members m ih =>
    have hinsert : entries (members ++ [m]) = (entries members).insert m.1 m.2 := by
      rw [entries, entries, Std.TreeMap.ofList_eq_insertMany_empty, Std.TreeMap.insertMany_append,
        Std.TreeMap.insertMany_list_singleton, ← Std.TreeMap.ofList_eq_insertMany_empty]
    rw [hinsert, Std.TreeMap.getElem?_insert, ih, lastOf?_append_singleton]
    simp

theorem mem_toList_entries {members : List (String × Value)} {key : String} {v : Value} :
    (key, v) ∈ (entries members).toList ↔ lastOf? members key = some v := by
  rw [Std.TreeMap.mem_toList_iff_getElem?_eq_some, getElem?_entries]

/-- The entries stand in the order of their keys. -/
theorem pairwise_toList_entries (members : List (String × Value)) :
    (entries members).toList.Pairwise fun d e => d.1 < e.1 :=
  Std.TreeMap.ordered_keys_toList.imp compare_lt_iff_lt.mp

end Json

namespace Configuration

/-! ## The law -/

/-- The switch under a key, where `look` gives the value there. Other values than truth values are
no switches. -/
def switchAt (look : String → Option Json.Value) (key : String) : Option Bool :=
  (look key).bind Json.Value.bool?

/-- What the switches say: those of the tags taken together, or the switch of all rules if no tag
has one. -/
inductive Switched (look : String → Option Json.Value) : Bool → Prop
  /-- A tag has a switch, and all switches of tags have to be on. -/
  | tagged {key : String} {b enabled : Bool} (htag : descriptiveLinkText.HasTag key)
    (hswitch : switchAt look key = some b)
    (hall : enabled = true ↔
      ∀ key, descriptiveLinkText.HasTag key → switchAt look key ≠ some false) :
    Switched look enabled
  /-- No tag has a switch, but there is one for all rules. -/
  | overall {enabled : Bool}
    (htags : ∀ key, descriptiveLinkText.HasTag key → switchAt look key = none)
    (hswitch : switchAt look "default" = some enabled) : Switched look enabled
  /-- There is no switch. -/
  | unset (htags : ∀ key, descriptiveLinkText.HasTag key → switchAt look key = none)
    (hdefault : switchAt look "default" = none) : Switched look true

/-- **What a configuration comes to**, where `look` gives the value under a key. -/
inductive Resolves (look : String → Option Json.Value) :
    Logged (Except ConfigError RuleOptions) → Prop
  /-- Two keys name the rule; the error tells the least two. -/
  | duplicate {first second : String} {v w : Json.Value}
    (hfirst : descriptiveLinkText.IsNamed first) (hv : look first = some v)
    (hsecond : descriptiveLinkText.IsNamed second) (hw : look second = some w)
    (hlt : first < second)
    (hleast : ∀ key u, descriptiveLinkText.IsNamed key → look key = some u →
      key = first ∨ second ≤ key) :
    Resolves look ⟨[], .error (.duplicateRule first second)⟩
  /-- One key names the rule, and its value holds the options. -/
  | own {key : String} {v : Json.Value} (hkey : descriptiveLinkText.IsNamed key)
    (hv : look key = some v)
    (honly : ∀ other u, descriptiveLinkText.IsNamed other → look other = some u → other = key) :
    Resolves look ⟨(RuleOptions.ofNamedValue key v).events,
      (RuleOptions.ofNamedValue key v).value.mapError .options⟩
  /-- No key names the rule, and the switches decide. -/
  | switched {enabled : Bool}
    (hnone : ∀ key, descriptiveLinkText.IsNamed key → look key = none)
    (h : Switched look enabled) : Resolves look ⟨[], .ok { enabled }⟩

variable {look look' : String → Option Json.Value}

/-- The switches say one thing. -/
theorem Switched.unique {a b : Bool} (ha : Switched look a) (hb : Switched look b) : a = b := by
  cases ha with
  | tagged htag hswitch hall =>
    cases hb with
    | tagged _ _ hall' => exact Bool.eq_iff_iff.mpr (hall.trans hall'.symm)
    | overall htags | unset htags => exact nomatch (htags _ htag).symm.trans hswitch
  | overall htags hdefault =>
    cases hb with
    | tagged htag hswitch => exact nomatch (htags _ htag).symm.trans hswitch
    | overall _ hdefault' => exact Option.some_inj.mp (hdefault.symm.trans hdefault')
    | unset _ hdefault' => exact nomatch hdefault'.symm.trans hdefault
  | unset htags hdefault =>
    cases hb with
    | tagged htag hswitch => exact nomatch (htags _ htag).symm.trans hswitch
    | overall _ hdefault' => exact nomatch hdefault.symm.trans hdefault'
    | unset => rfl

/-- A configuration comes to one thing. -/
theorem Resolves.unique {r r' : Logged (Except ConfigError RuleOptions)} (h : Resolves look r)
    (h' : Resolves look r') : r = r' := by
  cases h with
  | @duplicate first second _ _ hfirst hv hsecond hw hlt hleast =>
    cases h' with
    | @duplicate first' second' _ _ hfirst' hv' hsecond' hw' hlt' hleast' =>
      -- Each of the two pairs is the least one, so they are equal.
      have h₁ := hleast first' _ hfirst' hv'
      have h₂ := hleast second' _ hsecond' hw'
      have h₁' := hleast' first _ hfirst hv
      have h₂' := hleast' second _ hsecond hw
      obtain rfl : first = first' := by
        rcases h₁ with h₁ | h₁
        · exact h₁.symm
        · rcases h₁' with h₁' | h₁'
          · exact h₁'
          · exact absurd (hlt.trans_le (h₁.trans (hlt'.le.trans h₁'))) (lt_irrefl first)
      have hle : second ≤ second' := h₂.resolve_left hlt'.ne'
      have hge : second' ≤ second := h₂'.resolve_left hlt.ne'
      rw [le_antisymm hle hge]
    | own _ _ honly =>
      have heq := (honly first _ hfirst hv).trans (honly second _ hsecond hw).symm
      exact absurd heq hlt.ne
    | switched hnone => exact nomatch (hnone _ hfirst).symm.trans hv
  | own hkey hv honly =>
    cases h' with
    | @duplicate first second _ _ hfirst hv' hsecond hw' hlt =>
      have heq := (honly first _ hfirst hv').trans (honly second _ hsecond hw').symm
      exact absurd heq hlt.ne
    | own hkey' hv' =>
      obtain rfl := honly _ _ hkey' hv'
      obtain rfl := Option.some_inj.mp (hv.symm.trans hv')
      rfl
    | switched hnone => exact nomatch (hnone _ hkey).symm.trans hv
  | switched hnone hswitched =>
    cases h' with
    | duplicate hfirst hv => exact nomatch (hnone _ hfirst).symm.trans hv
    | own hkey hv => exact nomatch (hnone _ hkey).symm.trans hv
    | switched _ hswitched' => rw [hswitched.unique hswitched']

/-! ## What does not matter -/

/-- Two configurations **say the same about the rule**: they hold the same under every name of the
rule, and have the same switches under its tags and the key of all rules. -/
structure SaysSame (look look' : String → Option Json.Value) : Prop where
  /-- They hold the same under every name of the rule. -/
  own {key : String} (h : descriptiveLinkText.IsNamed key) : look key = look' key
  /-- They have the same switches under its tags. -/
  tag {key : String} (h : descriptiveLinkText.HasTag key) : switchAt look key = switchAt look' key
  /-- They have the same switch of all rules. -/
  overall : switchAt look "default" = switchAt look' "default"

theorem Switched.congr (hsame : SaysSame look look') {b : Bool} (h : Switched look b) :
    Switched look' b := by
  cases h with
  | tagged htag hswitch hall =>
    refine .tagged htag (hsame.tag htag ▸ hswitch) (hall.trans ?_)
    exact forall₂_congr fun key hkey => by rw [hsame.tag hkey]
  | overall htags hswitch =>
    exact .overall (fun key hkey => hsame.tag hkey ▸ htags key hkey) (hsame.overall ▸ hswitch)
  | unset htags hdefault =>
    exact .unset (fun key hkey => hsame.tag hkey ▸ htags key hkey) (hsame.overall ▸ hdefault)

/-- What the law says depends on what it asks for only. -/
theorem Resolves.congr (hsame : SaysSame look look')
    {r : Logged (Except ConfigError RuleOptions)} (h : Resolves look r) : Resolves look' r := by
  cases h with
  | duplicate hfirst hv hsecond hw hlt hleast =>
    refine .duplicate hfirst (hsame.own hfirst ▸ hv) hsecond (hsame.own hsecond ▸ hw) hlt ?_
    exact fun key u hkey hu => hleast key u hkey ((hsame.own hkey).trans hu)
  | own hkey hv honly =>
    refine .own hkey (hsame.own hkey ▸ hv) ?_
    exact fun other u hother hu => honly other u hother ((hsame.own hother).trans hu)
  | switched hnone hswitched =>
    exact .switched (fun key hkey => hsame.own hkey ▸ hnone key hkey) (hswitched.congr hsame)

/-! ## Visiting entries -/

theorem not_isNamed_default : ¬ descriptiveLinkText.IsNamed "default" := by
  decide

theorem not_hasTag_default : ¬ descriptiveLinkText.HasTag "default" := by
  decide

/-- No name of the rule is a tag of it. -/
theorem not_hasTag_of_isNamed {key : String} (h : descriptiveLinkText.IsNamed key) :
    ¬ descriptiveLinkText.HasTag key := by
  have hapart : ∀ name ∈ descriptiveLinkText.names, ∀ tag ∈ descriptiveLinkText.tags,
      ¬ SameWord name tag := by
    decide
  obtain ⟨name, hname, hkey⟩ := h
  rintro ⟨tag, htag, hkey'⟩
  exact hapart name hname tag htag (hkey.trans hkey'.symm)

/-- Whether an entry is that of the rule. -/
def isOwn (e : String × Json.Value) : Bool :=
  descriptiveLinkText.IsNamed e.1

/-- The switch of an entry under a tag of the rule. -/
def tagSwitch? (e : String × Json.Value) : Option Bool :=
  if descriptiveLinkText.HasTag e.1 then e.2.bool? else none

/-- Switches taken together. -/
def together (switches : List Bool) : Option Bool :=
  if switches.isEmpty then none else some (switches.all id)

theorem together_append_singleton (switches : List Bool) (b : Bool) :
    together (switches ++ [b]) = some ((together switches).getD true && b) := by
  cases switches with
  | nil => simp [together]
  | cons a switches => simp [together, Bool.and_assoc]

/-- What entries say about the rule, if there are not two entries of the rule. -/
def ofEntries (entries : List (String × Json.Value)) : Configuration where
  overall := (entries.lookup "default").bind Json.Value.bool?
  tagged := together (entries.filterMap tagSwitch?)
  own := entries.find? isOwn

/-- **Visiting one more entry**, where no two entries are of the rule. -/
theorem addEntry_ofEntries {done : List (String × Json.Value)} {e : String × Json.Value}
    (hfresh : e.1 ∉ done.map Prod.fst) (h : isOwn e → done.find? isOwn = none) :
    addEntry (ofEntries done) e = .ok (ofEntries (done ++ [e])) := by
  obtain ⟨key, v⟩ := e
  rw [addEntry]
  -- A key is of one kind only, so an entry changes one field of `ofEntries` and leaves the others.
  by_cases hdefault : key = "default"
  · subst hdefault
    have hlookup : done.lookup "default" = none := by
      refine List.lookup_eq_none_iff.mpr fun e he => bne_iff_ne.mpr fun heq => hfresh ?_
      exact List.mem_map.mpr ⟨e, he, heq.symm⟩
    simp [ofEntries, List.lookup_append, hlookup, tagSwitch?, not_hasTag_default, isOwn,
      not_isNamed_default]
  have hlookup : (done ++ [(key, v)]).lookup "default" = done.lookup "default" := by
    have hne : ("default" == key) = false := beq_eq_false_iff_ne.mpr (Ne.symm hdefault)
    simp [List.lookup_append, List.lookup_cons, hne]
  rw [if_neg hdefault]
  by_cases hname : descriptiveLinkText.IsNamed key
  · have hnone : done.find? isOwn = none := h (decide_eq_true hname)
    have hown : (ofEntries done).own = none := hnone
    simp only [hname, hown, if_true]
    simp [ofEntries, hlookup, tagSwitch?, not_hasTag_of_isNamed hname, hnone, isOwn, hname]
  by_cases htag : descriptiveLinkText.HasTag key
  · cases hv : v.bool? with
    | none => simp [hname, htag, hv, ofEntries, hlookup, tagSwitch?, isOwn]
    | some b =>
      simp [hname, htag, hv, ofEntries, hlookup, tagSwitch?, isOwn, together_append_singleton]
  · simp [hname, htag, ofEntries, hlookup, tagSwitch?, isOwn]

/-- Visiting a second entry of the rule. -/
theorem addEntry_of_isOwn {done : List (String × Json.Value)} {first e : String × Json.Value}
    (hfirst : done.find? isOwn = some first) (he : isOwn e) :
    addEntry (ofEntries done) e = .error (.duplicateRule first.1 e.1) := by
  have hname : descriptiveLinkText.IsNamed e.1 := of_decide_eq_true he
  have hdefault : e.1 ≠ "default" := fun heq => not_isNamed_default (heq ▸ hname)
  have hown : (ofEntries done).own = some first := hfirst
  simp [addEntry, hdefault, hname, hown]

/-- What a configuration of entries comes to when they are visited: two entries of the rule are too
many. -/
def collect (entries : List (String × Json.Value)) : Except ConfigError Configuration :=
  match entries.filter isOwn with
  | first :: second :: _ => .error (.duplicateRule first.1 second.1)
  | _ => .ok (ofEntries entries)

theorem collect_append_singleton {done : List (String × Json.Value)} {e : String × Json.Value}
    (hfresh : e.1 ∉ done.map Prod.fst) :
    collect (done ++ [e]) = collect done >>= (addEntry · e) := by
  have hfind : done.find? isOwn = (done.filter isOwn).head? := List.head?_filter.symm
  -- It depends on how many entries of the rule have been visited: none, one, or too many already.
  rcases hown : done.filter isOwn with _ | ⟨first, _ | ⟨second, others⟩⟩
  · have hstep := addEntry_ofEntries hfresh fun _ => by rw [hfind, hown, List.head?_nil]
    have hcollect : collect (done ++ [e]) = .ok (ofEntries (done ++ [e])) := by
      by_cases he : isOwn e <;> simp [collect, hown, he]
    rw [hcollect, ← hstep, collect, hown]
    rfl
  · rw [hown, List.head?_cons] at hfind
    by_cases he : isOwn e
    · have hcollect : collect (done ++ [e]) = .error (.duplicateRule first.1 e.1) := by
        simp [collect, hown, he]
      rw [hcollect, ← addEntry_of_isOwn hfind he, collect, hown]
      rfl
    · have hcollect : collect (done ++ [e]) = .ok (ofEntries (done ++ [e])) := by
        simp [collect, hown, he]
      rw [hcollect, ← addEntry_ofEntries hfresh fun h => absurd h he, collect, hown]
      rfl
  · simp only [collect, List.filter_append, hown, List.cons_append]
    rfl

/-- **Visiting entries one after the other**, where no key has two of them. -/
theorem foldlM_addEntry {entries : List (String × Json.Value)}
    (hkeys : (entries.map Prod.fst).Nodup) : entries.foldlM addEntry {} = collect entries := by
  induction entries using List.reverseRecOn with
  | nil => rfl
  | append_singleton done e ih =>
    rw [List.map_append, List.nodup_append] at hkeys
    have hfresh : e.1 ∉ done.map Prod.fst := fun h => hkeys.2.2 _ h _ (by simp) rfl
    rw [List.foldlM_append, ih hkeys.1, collect_append_singleton hfresh]
    simp

/-! ## The law holds -/

section Lookup

variable {entries : List (String × Json.Value)}
  (hmem : ∀ key v, (key, v) ∈ entries ↔ look key = some v)
include hmem

theorem lookup_eq_of_mem_iff (key : String) : entries.lookup key = look key := by
  cases h : entries.lookup key with
  | some v =>
    obtain ⟨l₁, l₂, rfl, -⟩ := List.lookup_eq_some_iff.mp h
    exact ((hmem key v).mp (by simp)).symm
  | none =>
    refine (Option.eq_none_iff_forall_ne_some.mpr fun v hv => ?_).symm
    have hne := List.lookup_eq_none_iff.mp h _ ((hmem key v).mpr hv)
    simp at hne

/-- The switches of tags, one after the other. -/
theorem mem_filterMap_tagSwitch? {b : Bool} :
    b ∈ entries.filterMap tagSwitch? ↔
      ∃ key, descriptiveLinkText.HasTag key ∧ switchAt look key = some b := by
  rw [List.mem_filterMap]
  constructor
  · rintro ⟨⟨key, v⟩, he, hb⟩
    by_cases htag : descriptiveLinkText.HasTag key
    · refine ⟨key, htag, ?_⟩
      rw [switchAt, (hmem key v).mp he]
      simpa [tagSwitch?, htag] using hb
    · simp [tagSwitch?, htag] at hb
  · rintro ⟨key, htag, hb⟩
    obtain ⟨v, hv, hb⟩ := Option.bind_eq_some_iff.mp hb
    exact ⟨(key, v), (hmem key v).mpr hv, by simpa [tagSwitch?, htag] using hb⟩

/-- The switches that entries add up to. -/
theorem switched_ofEntries :
    Switched look (((ofEntries entries).tagged.or (ofEntries entries).overall).getD true) := by
  have hoverall : (ofEntries entries).overall = switchAt look "default" := by
    rw [switchAt, ← lookup_eq_of_mem_iff hmem]
    rfl
  have htagged : (ofEntries entries).tagged = together (entries.filterMap tagSwitch?) := rfl
  rw [hoverall, htagged, together]
  cases hswitches : entries.filterMap tagSwitch? with
  | nil =>
    have htags : ∀ key, descriptiveLinkText.HasTag key → switchAt look key = none := by
      refine fun key htag => Option.eq_none_iff_forall_ne_some.mpr fun b hb => ?_
      have hb' := (mem_filterMap_tagSwitch? hmem).mpr ⟨key, htag, hb⟩
      rw [hswitches] at hb'
      exact List.not_mem_nil hb'
    cases hdefault : switchAt look "default" with
    | none => exact .unset htags hdefault
    | some enabled => exact .overall htags hdefault
  | cons b switches =>
    have hb : b ∈ entries.filterMap tagSwitch? := hswitches ▸ List.mem_cons_self
    obtain ⟨key, htag, hb⟩ := (mem_filterMap_tagSwitch? hmem).mp hb
    refine .tagged htag hb ?_
    have hfalse : (∀ b' ∈ b :: switches, b' = true) ↔ false ∉ b :: switches := by
      simp
    rw [← hswitches, mem_filterMap_tagSwitch? hmem] at hfalse
    simpa [hswitches] using hfalse

/-- The entries of the rule are those that the law asks for. -/
theorem mem_filter_isOwn {key : String} {v : Json.Value} :
    (key, v) ∈ entries.filter isOwn ↔
      descriptiveLinkText.IsNamed key ∧ look key = some v := by
  rw [List.mem_filter, hmem, and_comm, isOwn, decide_eq_true_iff]

/-- What entries in the order of their keys come to. -/
theorem resolves_of_ofJson_eq_collect (hsorted : entries.Pairwise fun d e => d.1 < e.1)
    {text : String} (htext : ofJson text = collect entries) :
    Resolves look (optionsOfJson text) := by
  have hown : (ofEntries entries).own = (entries.filter isOwn).head? := List.head?_filter.symm
  have hsortedOwn : (entries.filter isOwn).Pairwise fun d e => d.1 < e.1 := hsorted.filter isOwn
  rw [optionsOfJson, htext, collect]
  rcases hentries : entries.filter isOwn with _ | ⟨⟨first, v⟩, _ | ⟨⟨second, w⟩, others⟩⟩
  · have hnone : ∀ key, descriptiveLinkText.IsNamed key → look key = none := by
      refine fun key hkey => Option.eq_none_iff_forall_ne_some.mpr fun v hv => ?_
      have hv' := (mem_filter_isOwn hmem).mpr ⟨hkey, hv⟩
      rw [hentries] at hv'
      exact List.not_mem_nil hv'
    simp only [options, hown, hentries, List.head?_nil]
    exact .switched hnone (switched_ofEntries hmem)
  · have hfirst := (mem_filter_isOwn hmem).mp (hentries ▸ List.mem_singleton_self (first, v))
    simp only [options, hown, hentries, List.head?_cons]
    refine .own hfirst.1 hfirst.2 fun other u hother hu => ?_
    have hu' := (mem_filter_isOwn hmem).mpr ⟨hother, hu⟩
    rw [hentries, List.mem_singleton] at hu'
    exact congrArg Prod.fst hu'
  · rw [hentries] at hsortedOwn
    have hfirst := (mem_filter_isOwn hmem).mp (hentries ▸ List.mem_cons_self)
    have hsecond := (mem_filter_isOwn hmem).mp
      (hentries ▸ List.mem_cons_of_mem _ List.mem_cons_self)
    obtain ⟨hlt, hrest⟩ := List.pairwise_cons.mp hsortedOwn
    refine .duplicate hfirst.1 hfirst.2 hsecond.1 hsecond.2 (hlt _ List.mem_cons_self) ?_
    intro key u hkey hu
    have hu' := (mem_filter_isOwn hmem).mpr ⟨hkey, hu⟩
    rw [hentries, List.mem_cons, List.mem_cons] at hu'
    obtain heq | heq | hother := hu'
    · exact .inl (congrArg Prod.fst heq)
    · exact .inr (congrArg Prod.fst heq).ge
    · exact .inr ((List.pairwise_cons.mp hrest).1 _ hother).le

end Lookup

variable {text : String} {members members' : List (String × Json.Value)}

/-- The law holds of every object. -/
theorem resolves_optionsOfJson (hparse : Json.parse text = .ok (.object members)) :
    Resolves (Json.lastOf? members) (optionsOfJson text) := by
  have hsorted := Json.pairwise_toList_entries members
  have hkeys : ((Json.entries members).toList.map Prod.fst).Nodup :=
    List.pairwise_map.mpr (hsorted.imp fun hlt => hlt.ne)
  refine resolves_of_ofJson_eq_collect (fun _ _ => Json.mem_toList_entries) hsorted ?_
  rw [ofJson, hparse]
  exact foldlM_addEntry hkeys

/-- Members of different keys may change places. -/
theorem saysSame_of_filter_eq
    (h : ∀ key, members.filter (·.1 = key) = members'.filter (·.1 = key)) :
    SaysSame (Json.lastOf? members) (Json.lastOf? members') := by
  have hlook : Json.lastOf? members = Json.lastOf? members' := by
    funext key
    rw [Json.lastOf?, Json.lastOf?, h]
  exact ⟨fun _ => congrFun hlook _, fun _ => by rw [hlook], by rw [hlook]⟩

/-- **Resolving a configuration**: the options of the rule are what the law says of the last members
with each key. So another object gives the same options if it says the same about the rule, and in
particular if only members of different keys have changed places. -/
theorem optionsOfJson_eq_iff_resolves (hparse : Json.parse text = .ok (.object members)) :
    (∀ r, optionsOfJson text = r ↔ Resolves (Json.lastOf? members) r) ∧
    (∀ text' members', Json.parse text' = .ok (.object members') →
      SaysSame (Json.lastOf? members) (Json.lastOf? members') →
        optionsOfJson text' = optionsOfJson text) ∧
    (∀ text' members', Json.parse text' = .ok (.object members') →
      (∀ key, members.filter (·.1 = key) = members'.filter (·.1 = key)) →
        optionsOfJson text' = optionsOfJson text) := by
  have hlaw := resolves_optionsOfJson hparse
  have hsame : ∀ text' members', Json.parse text' = .ok (.object members') →
      SaysSame (Json.lastOf? members) (Json.lastOf? members') →
        optionsOfJson text' = optionsOfJson text :=
    fun text' members' hparse' hsays =>
      (resolves_optionsOfJson hparse').unique (hlaw.congr hsays)
  refine ⟨fun r => ⟨?_, hlaw.unique⟩, hsame, fun text' members' hparse' hfilter => ?_⟩
  · rintro rfl
    exact hlaw
  · exact hsame text' members' hparse' (saysSame_of_filter_eq hfilter)

/-- A tag that is off wins over a tag that is on and over the switch of all rules; another place in
the file and another member make no difference. -/
theorem optionsOfJson_eq_iff_resolves_disagreeing_tags :
    optionsOfJson "\x7b\"links\":false,\"Accessibility\":true,\"default\":true\x7d" =
      ⟨[], .ok { enabled := false }⟩ ∧
    optionsOfJson "\x7b\"default\":true,\"x\":1,\"Accessibility\":true,\"links\":false\x7d" =
      ⟨[], .ok { enabled := false }⟩ := by
  have hparse : Json.parse "\x7b\"links\":false,\"Accessibility\":true,\"default\":true\x7d" =
      .ok (.object [("links", .bool false), ("Accessibility", .bool true),
        ("default", .bool true)]) := by
    with_unfolding_all rfl
  have hparse' : Json.parse
      "\x7b\"default\":true,\"x\":1,\"Accessibility\":true,\"links\":false\x7d" =
      .ok (.object [("default", .bool true), ("x", .number (.integer 1)),
        ("Accessibility", .bool true), ("links", .bool false)]) := by
    with_unfolding_all rfl
  have hapart : ∀ key, descriptiveLinkText.IsNamed key →
      key ≠ "links" ∧ key ≠ "Accessibility" ∧ key ≠ "default" := by
    intro key hkey
    refine ⟨?_, ?_, ?_⟩ <;> rintro rfl <;> revert hkey <;> decide
  have hlook : ∀ key, key ≠ "x" →
      Json.lastOf? [("links", .bool false), ("Accessibility", .bool true),
        ("default", .bool true)] key =
      Json.lastOf? [("default", .bool true), ("x", .number (.integer 1)),
        ("Accessibility", .bool true), ("links", .bool false)] key := by
    intro key hx
    by_cases hlinks : "links" = key
    · subst hlinks
      rfl
    by_cases haccessibility : "Accessibility" = key
    · subst haccessibility
      rfl
    · simp [Json.lastOf?, hlinks, haccessibility, hx.symm]
  obtain ⟨hlaw, hsame, -⟩ := optionsOfJson_eq_iff_resolves hparse
  have hresolved := (hlaw ⟨[], .ok { enabled := false }⟩).mpr <| by
    refine .switched (fun key hkey => ?_) ?_
    · obtain ⟨hlinks, haccessibility, hdefault⟩ := hapart key hkey
      simp [Json.lastOf?, hlinks.symm, haccessibility.symm, hdefault.symm]
    · have htag : descriptiveLinkText.HasTag "links" := by decide
      have hswitch : switchAt (Json.lastOf? [("links", .bool false), ("Accessibility", .bool true),
          ("default", .bool true)]) "links" = some false := rfl
      exact .tagged htag hswitch (iff_of_false Bool.false_ne_true fun h => h _ htag hswitch)
  -- The law asks for no value under `x`, which is neither a name of the rule nor a tag.
  have hasked : ∀ key, descriptiveLinkText.IsNamed key ∨ descriptiveLinkText.HasTag key →
      key ≠ "x" := by
    rintro _ hkey rfl
    revert hkey
    decide
  have hsays : SaysSame
      (Json.lastOf? [("links", .bool false), ("Accessibility", .bool true),
        ("default", .bool true)])
      (Json.lastOf? [("default", .bool true), ("x", .number (.integer 1)),
        ("Accessibility", .bool true), ("links", .bool false)]) := by
    refine ⟨fun hkey => hlook _ (hasked _ (.inl hkey)), fun hkey => ?_, rfl⟩
    rw [switchAt, switchAt, hlook _ (hasked _ (.inr hkey))]
  exact ⟨hresolved, (hsame _ _ hparse' hsays).trans hresolved⟩

end Configuration

end DescriptiveLinks
