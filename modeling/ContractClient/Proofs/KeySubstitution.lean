import ContractClient.Config.Basic
import ContractClient.Proofs.Traversal

/-! Keys in the URLs of node providers. A key is put where the configuration has a place for it:
in the URLs of networks, and nowhere else. The place that a provider serves without a key is looked
for with its surroundings but replaced without them, so that the key also goes wherever else a URL
has a slash and `demo` behind it. -/

namespace ContractClient

/-! ## Occurrences -/

namespace Text

def Occurs (pattern text : String) : Prop :=
  pattern.toList <:+: text.toList

theorem occursIn_eq_true_iff {pattern text : List Char} :
    occursIn pattern text = true ↔ pattern <:+: text := by
  induction text with
  | nil => rw [occursIn, List.isEmpty_iff, List.infix_nil]
  | cons character rest induction =>
      rw [occursIn, Bool.or_eq_true, List.isPrefixOf_iff_prefix, induction, List.infix_cons_iff]

theorem contains_eq_true_iff {text pattern : String} :
    contains text pattern = true ↔ Occurs pattern text :=
  occursIn_eq_true_iff

instance (pattern text : String) : Decidable (Occurs pattern text) :=
  decidable_of_iff _ contains_eq_true_iff

/-! ## Replacing -/

/-- From left to right, every occurrence of the pattern gives way to the substitute, and what is
before the first, between two of them or behind the last stays as it is. -/
inductive Replaced (pattern substitute : List Char) : List Char → List Char → Prop
  | last {gap : List Char} (absent : ¬ pattern <:+: gap) : Replaced pattern substitute gap gap
  /-- The pattern behind the gap is the first one: none begins in the gap. -/
  | next {gap text result : List Char} (first : ¬ pattern <:+: gap ++ pattern.dropLast)
      (rest : Replaced pattern substitute text result) :
      Replaced pattern substitute (gap ++ (pattern ++ text)) (gap ++ (substitute ++ result))

def Replaces (pattern substitute text result : String) : Prop :=
  Replaced pattern.toList substitute.toList text.toList result.toList

section Replacing

variable {pattern substitute text result : List Char}

theorem Replaced.cons {character : Char} (replaced : Replaced pattern substitute text result)
    (absent : ¬ pattern <+: character :: text) :
    Replaced pattern substitute (character :: text) (character :: result) := by
  cases replaced with
  | last free =>
      apply Replaced.last
      rw [List.infix_cons_iff, not_or]
      exact ⟨absent, free⟩
  | @next gap text result first rest =>
      have within : character :: (gap ++ pattern.dropLast) <+:
          character :: (gap ++ (pattern ++ text)) := by
        rw [List.cons_prefix_cons, List.prefix_append_right_inj]
        exact ⟨rfl, (List.dropLast_prefix pattern).trans (List.prefix_append pattern text)⟩
      have unbegun : ¬ pattern <:+: character :: gap ++ pattern.dropLast := by
        rw [List.cons_append, List.infix_cons_iff, not_or]
        exact ⟨fun begins => absent (begins.trans within), first⟩
      exact Replaced.next unbegun rest

theorem replaced_replaceFrom (nonempty : pattern ≠ []) (substitute : List Char) (skip : Nat)
    (text : List Char) :
    Replaced pattern substitute (text.drop skip) (replaceFrom pattern substitute skip text) := by
  fun_induction replaceFrom pattern substitute skip text with
  | case1 skip =>
      rw [List.drop_nil]
      exact .last fun within => nonempty (List.infix_nil.mp within)
  | case2 skip character rest induction => exact induction
  | case3 character rest begins induction =>
      have first : ¬ pattern <:+: [] ++ pattern.dropLast := by
        intro within
        have bound := within.length_le
        have filled := List.length_pos_iff.mpr nonempty
        rw [List.nil_append, List.length_dropLast] at bound
        omega
      have whole : pattern ++ rest.drop (pattern.length - 1) = character :: rest := by
        have split := List.prefix_iff_eq_append.mp (List.isPrefixOf_iff_prefix.mp begins)
        rwa [List.drop_cons (List.length_pos_iff.mpr nonempty)] at split
      rw [List.drop_zero, ← whole]
      exact Replaced.next first induction
  | case4 character rest absent induction =>
      rw [List.isPrefixOf_iff_prefix] at absent
      exact induction.cons absent

theorem Replaced.exists_length_eq (replaced : Replaced pattern substitute text result) :
    ∃ count, result.length + count * pattern.length =
      text.length + count * substitute.length := by
  induction replaced with
  | last => exact ⟨0, by simp⟩
  | next _ _ induction =>
      rcases induction with ⟨count, equal⟩
      refine ⟨count + 1, ?_⟩
      simp only [List.length_append, Nat.succ_mul]
      omega

theorem Replaced.eq_iff (replaced : Replaced pattern substitute text result) :
    result = text ↔ substitute = pattern ∨ ¬ pattern <:+: text := by
  induction replaced with
  | last absent => simp [absent]
  | @next gap text result first rest induction =>
      have inside : pattern <:+: gap ++ (pattern ++ text) := ⟨gap, text, by simp⟩
      rw [List.append_cancel_left_eq]
      constructor
      · intro same
        -- Where the lengths agree, what is put in is as long as what is taken out.
        rcases rest.exists_length_eq with ⟨count, balance⟩
        have total := congrArg List.length same
        rw [List.length_append, List.length_append] at total
        have scaled : (count + 1) * substitute.length = (count + 1) * pattern.length := by
          rw [Nat.succ_mul, Nat.succ_mul]
          omega
        have sized := Nat.eq_of_mul_eq_mul_left (Nat.succ_pos count) scaled
        exact .inl (List.append_inj_left same sized)
      · intro either
        rcases either with same | absent
        · rw [same, induction.mpr (.inl same)]
        · exact absurd inside absent

end Replacing

section Texts

variable {pattern substitute text result : String}

theorem replaces_replace (nonempty : pattern.toList ≠ []) (substitute text : String) :
    Replaces pattern substitute text (replace text pattern substitute) := by
  rw [Replaces, replace, String.toList_ofList]
  exact replaced_replaceFrom nonempty substitute.toList 0 text.toList

theorem Replaces.eq_iff (replaces : Replaces pattern substitute text result) :
    result = text ↔ substitute = pattern ∨ ¬ Occurs pattern text := by
  rw [← String.toList_inj, Replaced.eq_iff replaces, String.toList_inj, Occurs]

end Texts

/-! ## Replacing in parts of a text -/

/-- No occurrence of the pattern reaches into the text from before it. -/
def Apart (pattern text : List Char) : Prop :=
  ∀ character ∈ text.head?, character ∉ pattern.tail

section Parts

variable {pattern back : List Char}

theorem Apart.prefix_append_iff (apart : Apart pattern back) {character : Char}
    {rest : List Char} :
    pattern <+: character :: rest ++ back ↔ pattern <+: character :: rest := by
  constructor
  · intro begins
    rcases List.prefix_or_prefix_of_prefix begins (List.prefix_append (character :: rest) back) with
      within | longer
    · exact within
    · rcases longer with ⟨surplus, rfl⟩
      rw [List.prefix_append_right_inj] at begins
      cases surplus with
      | nil => simp
      | cons first others =>
          -- The first character behind would be one of the pattern after its first.
          rcases begins with ⟨behind, rfl⟩
          exact absurd (by simp) (apart first rfl)
  · intro begins
    exact begins.trans (List.prefix_append _ _)

theorem Apart.replaceFrom_append (apart : Apart pattern back) (substitute : List Char) {skip : Nat}
    {front : List Char} (within : skip ≤ front.length) :
    replaceFrom pattern substitute skip (front ++ back) =
      replaceFrom pattern substitute skip front ++ replaceFrom pattern substitute 0 back := by
  fun_induction replaceFrom pattern substitute skip front with
  | case1 skip =>
      rw [List.length_nil, Nat.le_zero] at within
      rw [within, List.nil_append, List.nil_append]
  | case2 skip character rest induction =>
      exact induction (Nat.le_of_succ_le_succ within)
  | case3 character rest begins induction =>
      have begun := List.isPrefixOf_iff_prefix.mp begins
      have enough : pattern.length - 1 ≤ rest.length := by
        have bound := begun.length_le
        rw [List.length_cons] at bound
        omega
      have also : pattern.isPrefixOf (character :: (rest ++ back)) = true :=
        List.isPrefixOf_iff_prefix.mpr (apart.prefix_append_iff.mpr begun)
      rw [List.cons_append, replaceFrom, if_pos also, induction enough, List.append_assoc]
  | case4 character rest absent induction =>
      have also : ¬ pattern.isPrefixOf (character :: (rest ++ back)) = true := by
        rw [List.isPrefixOf_iff_prefix] at absent ⊢
        exact fun begins => absent (apart.prefix_append_iff.mp begins)
      rw [List.cons_append, replaceFrom, if_neg also, induction (Nat.zero_le _), List.cons_append]

theorem replaceFrom_eq_drop (pattern substitute : List Char) (skip : Nat) (text : List Char) :
    replaceFrom pattern substitute skip text =
      replaceFrom pattern substitute 0 (text.drop skip) := by
  induction text generalizing skip with
  | nil => rw [List.drop_nil, replaceFrom, replaceFrom]
  | cons character rest induction =>
      cases skip with
      | zero => rfl
      | succ skip => exact induction skip

end Parts

section Texts

variable {pattern : String}

theorem replace_append (substitute front : String) {back : String}
    (apart : Apart pattern.toList back.toList) :
    replace (front ++ back) pattern substitute =
      replace front pattern substitute ++ replace back pattern substitute := by
  rw [replace, replaceAll, String.toList_append, apart.replaceFrom_append _ (Nat.zero_le _),
    String.ofList_append]
  rfl

theorem replace_pattern_append (nonempty : pattern.toList ≠ []) (substitute rest : String) :
    replace (pattern ++ rest) pattern substitute =
      substitute ++ replace rest pattern substitute := by
  rcases List.exists_cons_of_ne_nil nonempty with ⟨first, others, characters⟩
  have begins : pattern.toList.isPrefixOf (first :: (others ++ rest.toList)) = true := by
    rw [List.isPrefixOf_iff_prefix, characters, ← List.cons_append]
    exact List.prefix_append _ _
  have behind : (others ++ rest.toList).drop (pattern.toList.length - 1) = rest.toList := by
    rw [characters, List.length_cons, Nat.add_sub_cancel, List.drop_left]
  have spelled : (pattern ++ rest).toList = first :: (others ++ rest.toList) := by
    rw [String.toList_append, characters, List.cons_append]
  rw [replace, replaceAll, spelled, replaceFrom, if_pos begins, replaceFrom_eq_drop, behind,
    String.ofList_append, String.ofList_toList]
  rfl

end Texts

end Text

/-! ## Keys in URLs -/

namespace Config

/-- What is behind the path of a URL: nothing, a query or a fragment. -/
def EndsPath (rest : String) : Prop :=
  ∀ character ∈ rest.toList.head?, character = '?' ∨ character = '#'

/-- What becomes of a URL when a key is put into it. -/
structure KeyedUrl (key url changed : String) : Prop where
  /-- A URL with no place for a key stays as it is. -/
  unmarked : ¬ Text.Occurs demoMark url → ¬ Text.Occurs keyPlace url → changed = url
  /-- Without the mark of a demo, exactly the places for a key are filled. -/
  filled : ¬ Text.Occurs demoMark url → Text.Replaces keyPlace key url changed
  /-- The key stands for `demo` in the mark, be it a whole segment or the beginning of one, and for
  every other `demo` behind a slash. So what is before the mark and the segments behind it stay
  exactly if there is no other one in them, or the key is that word. -/
  segment : ∀ before segments query, url = before ++ demoMark ++ segments ++ query →
    EndsPath query → ∃ front back rest, changed = front ++ "alchemy.com/v2/" ++ key ++ back ++ rest ∧
      Text.Replaces "/demo" ("/" ++ key) before front ∧
      Text.Replaces "/demo" ("/" ++ key) segments back ∧
      Text.Replaces "/demo" ("/" ++ key) query rest ∧
      (front = before ∧ back = segments ↔
        key = "demo" ∨ ¬ Text.Occurs "/demo" before ∧ ¬ Text.Occurs "/demo" segments)
  /-- No URL with the mark stays as it is, however its segment goes on. -/
  marked : Text.Occurs demoMark url → (changed = url ↔ key = "demo")

section Urls

variable {key url : String}

theorem withKey_of_demo (marked : Text.Occurs demoMark url) :
    withKey key url = Text.replace url "/demo" ("/" ++ key) := by
  rw [withKey, if_pos (Text.contains_eq_true_iff.mpr marked)]

theorem withKey_of_place (other : ¬ Text.Occurs demoMark url)
    (place : Text.Occurs keyPlace url) : withKey key url = Text.replace url keyPlace key := by
  rw [withKey, if_neg (mt Text.contains_eq_true_iff.mp other),
    if_pos (Text.contains_eq_true_iff.mpr place)]

theorem withKey_of_unmarked (other : ¬ Text.Occurs demoMark url)
    (unmarked : ¬ Text.Occurs keyPlace url) : withKey key url = url := by
  rw [withKey, if_neg (mt Text.contains_eq_true_iff.mp other),
    if_neg (mt Text.contains_eq_true_iff.mp unmarked)]

theorem slash_append_eq_iff : "/" ++ key = "/demo" ↔ key = "demo" := by
  rw [show "/demo" = "/" ++ "demo" from rfl, String.append_right_inj]

/-- The parts of a URL around the mark are replaced for themselves: none of them begins within
`/demo`. -/
theorem replace_demo (key before segments : String) {query : String} (ends : EndsPath query) :
    Text.replace (before ++ demoMark ++ segments ++ query) "/demo" ("/" ++ key) =
      Text.replace before "/demo" ("/" ++ key) ++ "alchemy.com/v2/" ++ key ++
        Text.replace segments "/demo" ("/" ++ key) ++ Text.replace query "/demo" ("/" ++ key) := by
  have parts : before ++ demoMark ++ segments ++ query =
      before ++ ("alchemy.com/v2" ++ ("/demo" ++ (segments ++ query))) := by
    rw [show demoMark = "alchemy.com/v2" ++ "/demo" from rfl]
    simp only [String.append_assoc]
  have provider : Text.replace "alchemy.com/v2" "/demo" ("/" ++ key) = "alchemy.com/v2" :=
    (Text.replaces_replace (by decide) _ _).eq_iff.mpr (.inr (by decide))
  have beforeProvider : Text.Apart "/demo".toList
      ("alchemy.com/v2" ++ ("/demo" ++ (segments ++ query))).toList := by
    simp [Text.Apart]
  have beforeDemo : Text.Apart "/demo".toList ("/demo" ++ (segments ++ query)).toList := by
    simp [Text.Apart]
  have beforeQuery : Text.Apart "/demo".toList query.toList := by
    intro character first
    rcases ends character first with rfl | rfl <;> decide
  rw [parts, Text.replace_append _ _ beforeProvider, Text.replace_append _ _ beforeDemo,
    Text.replace_pattern_append (by decide), Text.replace_append _ _ beforeQuery, provider]
  have slash : "alchemy.com/v2/" = "alchemy.com/v2" ++ "/" := rfl
  simp only [slash, String.append_assoc]

theorem keyedUrl_withKey (key url : String) : KeyedUrl key url (withKey key url) where
  unmarked := withKey_of_unmarked
  filled := by
    intro other
    by_cases place : Text.Occurs keyPlace url
    · rw [withKey_of_place other place]
      exact Text.replaces_replace (by decide) key url
    · rw [withKey_of_unmarked other place]
      exact .last place
  segment := by
    intro before segments query whole ends
    have marked : Text.Occurs demoMark url := by
      rw [whole]
      exact ⟨before.toList, (segments ++ query).toList, by simp⟩
    have replaces := Text.replaces_replace (by decide : "/demo".toList ≠ []) ("/" ++ key)
    refine ⟨_, _, _, ?_, replaces before, replaces segments, replaces query, ?_⟩
    · rw [withKey_of_demo marked, whole, replace_demo key before segments ends]
    · rw [(replaces before).eq_iff, (replaces segments).eq_iff, slash_append_eq_iff, or_and_left]
  marked := by
    intro marked
    have inside : Text.Occurs "/demo" url :=
      List.IsInfix.trans (by decide : Text.Occurs "/demo" demoMark) marked
    have replaces := Text.replaces_replace (by decide : "/demo".toList ≠ []) ("/" ++ key) url
    rw [withKey_of_demo marked, replaces.eq_iff, slash_append_eq_iff]
    exact or_iff_left (not_not_intro inside)

end Urls

/-! ## Keys in configurations -/

structure KeyedNetwork (key : String) (network changed : String × NetworkSettings) : Prop where
  name : changed.1 = network.1
  chainId : changed.2.chainId = network.2.chainId
  timeout : changed.2.timeout = network.2.timeout
  url : KeyedUrl key network.2.url changed.2.url

structure Keyed (key : String) (config changed : Config) : Prop where
  defaultNetwork : changed.defaultNetwork = config.defaultNetwork
  networks : List.Forall₂ (KeyedNetwork key) config.networks changed.networks
  contracts : changed.contracts = config.contracts
  security : changed.security = config.security
  transport : changed.transport = config.transport

/-- A key goes into the URLs of networks, and nothing else of the configuration changes. Of the
URLs that have no place for a key none changes, and in one with places for a key exactly these are
filled, unless it also has the mark of a demo. Then every `demo` behind a slash gives way to the
key, the one in the mark and all others. -/
theorem keyed_substituteKey (config : Config) (key : String) :
    Keyed key config (config.substituteKey key) where
  defaultNetwork := rfl
  networks := by
    rw [substituteKey, List.forall₂_map_right_iff, List.forall₂_same]
    intro network _
    exact ⟨rfl, rfl, rfl, keyedUrl_withKey key network.2.url⟩
  contracts := rfl
  security := rfl
  transport := rfl

def ofNetwork (name url : String) : Config :=
  ⟨name, [(name, ⟨url, 1, NetworkSettings.defaultTimeout⟩)], [], .default, defaultTransport⟩

theorem keyed_substituteKey_logs :
    ∃ settings, ((ofNetwork "mainnet" "https://eth-mainnet.g.alchemy.com/v2/demo/logs?from=0")
        |>.substituteKey "k3y").networks = [("mainnet", settings)] ∧ settings.chainId = 1 ∧
      settings.url = "https://eth-mainnet.g.alchemy.com/v2/k3y/logs?from=0" := by
  have keyed := keyed_substituteKey
    (ofNetwork "mainnet" "https://eth-mainnet.g.alchemy.com/v2/demo/logs?from=0") "k3y"
  rcases List.forall₂_cons_left_iff.mp keyed.networks with
    ⟨⟨name, settings⟩, others, network, single, networks⟩
  rw [List.forall₂_nil_left_iff] at single
  have named : name = "mainnet" := network.name
  rcases network.url.segment "https://eth-mainnet.g." "/logs" "?from=0" rfl (by simp [EndsPath])
    with ⟨front, back, rest, changed, _, _, query, exactly⟩
  rcases exactly.mpr (.inr ⟨by decide, by decide⟩) with ⟨rfl, rfl⟩
  have unchanged : rest = "?from=0" := query.eq_iff.mpr (.inr (by decide))
  refine ⟨settings, ?_, network.chainId, ?_⟩
  · rw [networks, single, named]
  · rw [changed, unchanged]
    rfl

/-- A host that begins with the word becomes the key, and so does the beginning of a longer
segment. -/
theorem substituteKey_elsewhere :
    (ofNetwork "shared" "https://demo.alchemy.com/v2/demo").substituteKey "k3y" =
        ofNetwork "shared" "https://k3y.alchemy.com/v2/k3y" ∧
      (ofNetwork "longer" "https://eth-mainnet.g.alchemy.com/v2/demolition").substituteKey "k3y" =
        ofNetwork "longer" "https://eth-mainnet.g.alchemy.com/v2/k3ylition" := by
  decide

end Config

end ContractClient
