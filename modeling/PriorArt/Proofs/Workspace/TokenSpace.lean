import Mathlib.Algebra.Order.Ring.Int
import Mathlib.Data.List.Nodup
import Mathlib.Data.List.Perm.Subperm
import PriorArt.CommandLine.Run
import PriorArt.Proofs.Workspace.Limits
import PriorArt.Proofs.Workspace.Takeovers

/-!
# The space of tokens

A source draws any text of its length from its stock, given the right numbers. There are only so many
of these texts. A search for a free one can come to an end as long as there are more of them than
stored words, and it cannot where each of them is the token of a stored word.

Settings are accepted with any limit on the number of words and any length of tokens from one on. So
words may take up all texts of the length before they reach the limit, namely exactly if the limit is
larger than the number of these texts.
-/

namespace PriorArt

/-- A text of so many characters, all of them from a stock. -/
structure IsTextOf (stock : Text) (length : Nat) (text : Text) : Prop where
  long : text.length = length
  fromStock : ∀ character ∈ text, character ∈ stock

/-- The texts of so many characters from a stock. -/
def textsOf (stock : Text) : Nat → List Text
  | 0 => [[]]
  | length + 1 => stock.flatMap (fun character => (textsOf stock length).map (character :: ·))

section Texts

variable {stock : Text}

/-- The texts of a length are listed. -/
theorem mem_textsOf {length : Nat} {text : Text} :
    text ∈ textsOf stock length ↔ IsTextOf stock length text := by
  induction length generalizing text with
  | zero =>
    rw [textsOf, List.mem_singleton]
    constructor
    · rintro rfl
      exact ⟨rfl, by simp⟩
    · rintro ⟨long, _⟩
      exact List.eq_nil_of_length_eq_zero long
  | succ length inductionHypothesis =>
    simp only [textsOf, List.mem_flatMap, List.mem_map, inductionHypothesis]
    constructor
    · rintro ⟨character, inside, rest, ⟨long, fromStock⟩, rfl⟩
      exact ⟨by rw [List.length_cons, long], List.forall_mem_cons.mpr ⟨inside, fromStock⟩⟩
    · rintro ⟨long, fromStock⟩
      cases text with
      | nil => cases long
      | cons character rest =>
        obtain ⟨inside, others⟩ := List.forall_mem_cons.mp fromStock
        exact ⟨character, inside, rest, ⟨Nat.succ.inj long, others⟩, rfl⟩

/-- There are as many texts as choices of a character for each place. -/
theorem length_textsOf (stock : Text) (length : Nat) :
    (textsOf stock length).length = stock.length ^ length := by
  induction length with
  | zero => rfl
  | succ length inductionHypothesis =>
    simp [textsOf, List.length_flatMap, inductionHypothesis, Nat.pow_succ, Nat.mul_comm]

/-- No text is listed twice if the characters of the stock are distinct. -/
theorem nodup_textsOf (distinct : stock.Nodup) (length : Nat) : (textsOf stock length).Nodup := by
  induction length with
  | zero => simp [textsOf]
  | succ length inductionHypothesis =>
    rw [textsOf, List.nodup_flatMap]
    constructor
    · intro character _
      exact inductionHypothesis.map (fun _ _ same => (List.cons.inj same).2)
    · refine distinct.imp ?_
      intro first second different text ofFirst ofSecond
      obtain ⟨_, _, rfl⟩ := List.mem_map.mp ofFirst
      obtain ⟨_, _, same⟩ := List.mem_map.mp ofSecond
      exact different (List.cons.inj same).1.symm

/-- Fewer names than texts leave a text that is none of them. -/
theorem exists_unused_text (distinct : stock.Nodup) {length : Nat} {names : List Text}
    (fewer : names.length < stock.length ^ length) :
    ∃ text, IsTextOf stock length text ∧ text ∉ names := by
  by_contra used
  have listed : textsOf stock length ⊆ names := by
    intro text inside
    by_contra unused
    exact used ⟨text, mem_textsOf.mp inside, unused⟩
  have counted := ((nodup_textsOf distinct length).subperm listed).length_le
  rw [length_textsOf] at counted
  omega

end Texts

namespace TokenSource

variable {source : TokenSource}

/-- The characters of the usual stock are distinct. -/
theorem standard_stock_nodup : standardStock.Nodup := by decide

/-- What is drawn next is a text of the length from the stock. -/
theorem draw_text (source : TokenSource) : IsTextOf source.stock source.length source.draw.1 where
  long := by simp [draw]
  fromStock := by
    intro character inside
    obtain ⟨offset, _, rfl⟩ := List.mem_map.mp inside
    exact List.get_mem ..

/-- With the right numbers any text of the length from the stock is drawn next. -/
theorem exists_draw {text : Text} (drawable : IsTextOf source.stock source.length text) :
    ∃ numbers, ({ source with numbers } : TokenSource).draw.1 = text := by
  refine ⟨fun place => source.stock.idxOf (text.getD (place - source.used) default), ?_⟩
  apply List.ext_getElem (by simp [draw, drawable.long])
  intro offset _ inside
  have listed : text[offset] ∈ source.stock := drawable.fromStock _ (List.getElem_mem inside)
  simp [draw, pick, inside, Nat.mod_eq_of_lt (List.idxOf_lt_length_iff.mpr listed)]

/-- What is drawn at last, after texts that were taken, is a text of the length from the stock. -/
theorem drawFree_text {taken : Text → Bool} {attempts : Nat} {text : Text}
    (drawn : (source.drawFree taken attempts).1 = some text) :
    IsTextOf source.stock source.length text := by
  induction attempts generalizing source with
  | zero => cases drawn
  | succ attempts inductionHypothesis =>
    rw [drawFree] at drawn
    dsimp only at drawn
    split at drawn
    · have later : IsTextOf source.draw.2.stock source.draw.2.length text := inductionHypothesis drawn
      exact later
    · obtain rfl := Option.some.inj drawn
      exact source.draw_text

end TokenSource

namespace Action

/-- The tokens that a source can give, with one sequence of numbers or another, are the texts of its
length from its stock that are not taken. -/
theorem draws_iff {taken : Catalogue → Text → Bool} {catalogue : Catalogue} {source : TokenSource}
    {token : Text} :
    (∃ numbers, (runOn (drawToken taken) ⟨catalogue, { source with numbers }⟩).1 = .ok token) ↔
      IsTextOf source.stock source.length token ∧ taken catalogue token = false := by
  have seen : ∀ workspace, runOn (get : Action Workspace) workspace = (.ok workspace, workspace) :=
    fun _ => rfl
  constructor
  · rintro ⟨numbers, given⟩
    have free := (draw_token_free given).1
    rw [drawToken, run_on_bind_ok (seen _)] at given
    generalize TokenSource.patience = attempts at given
    rcases drawn : ({ source with numbers } : TokenSource).drawFree (taken catalogue) attempts with
      ⟨token?, tokens⟩
    rw [drawn] at given
    cases token? with
    | none => cases given
    | some other =>
      obtain rfl : other = token := Except.ok.inj given
      have given : (({ source with numbers } : TokenSource).drawFree (taken catalogue) attempts).1 =
          some other := congrArg Prod.fst drawn
      have text := TokenSource.drawFree_text given
      exact ⟨text, free⟩
  · rintro ⟨drawable, free⟩
    obtain ⟨numbers, drawn⟩ := TokenSource.exists_draw drawable
    refine ⟨numbers, ?_⟩
    obtain ⟨more, bound⟩ : ∃ more, TokenSource.patience = more + 1 :=
      Nat.exists_eq_succ_of_ne_zero (by decide)
    have first : ({ source with numbers } : TokenSource).drawFree (taken catalogue)
        TokenSource.patience =
          (some token, ({ source with numbers } : TokenSource).draw.2) := by
      rw [bound, TokenSource.drawFree]
      dsimp only
      rw [drawn, free]
      rfl
    rw [drawToken, run_on_bind_ok (seen _)]
    dsimp only
    rw [first]
    rfl

/-- The word tokens that a source can give are the texts by which no word is found. -/
theorem draws_word_iff {catalogue : Catalogue} {source : TokenSource} {token : Text} :
    (∃ numbers, (runOn drawWordToken ⟨catalogue, { source with numbers }⟩).1 = .ok token) ↔
      IsTextOf source.stock source.length token ∧ catalogue.wordOfToken? token = none := by
  rw [drawWordToken, draws_iff, Option.isSome_eq_false_iff, Option.isNone_iff_eq_none]

/-- The group tokens that a source can give are the texts by which no group is found. -/
theorem draws_class_iff {catalogue : Catalogue} {source : TokenSource} {token : Text} :
    (∃ numbers, (runOn drawClassToken ⟨catalogue, { source with numbers }⟩).1 = .ok token) ↔
      IsTextOf source.stock source.length token ∧ catalogue.classOfToken? token = none := by
  rw [drawClassToken, draws_iff, Option.isSome_eq_false_iff, Option.isNone_iff_eq_none]

end Action

namespace Catalogue

/-- Some text of a length from the usual stock is the token of no stored word. -/
def HasFreeToken (length : Nat) (catalogue : Catalogue) : Prop :=
  ∃ token, IsTextOf TokenSource.standardStock length token ∧
    ∀ word, .word word ∈ catalogue.entities → word.token ≠ token

/-- Under any new key a word can be stored with a token of a length from the usual stock: there are
numbers for which the search for a free token comes to an end. -/
def CanDrawForKeys (length : Nat) (catalogue : Catalogue) : Prop :=
  ∀ key variants label, key ≠ [] → catalogue.wordOfKey? key = none →
    ∃ tokens : TokenSource, tokens.stock = TokenSource.standardStock ∧ tokens.length = length ∧
      ∃ word, (Action.runOn (Action.wordForKey key variants label) ⟨catalogue, tokens⟩).1 = .ok word

variable {catalogue : Catalogue} {length : Nat}

/-- Fewer words than texts leave one of the texts free. -/
theorem free_of_count (fewer : catalogue.count .word < 62 ^ length) :
    catalogue.HasFreeToken length := by
  have names : ((catalogue.ofKind .word).map Entity.token).length <
      TokenSource.standardStock.length ^ length := by
    rw [List.length_map]
    exact fewer
  obtain ⟨token, drawable, unused⟩ := exists_unused_text TokenSource.standard_stock_nodup names
  refine ⟨token, drawable, ?_⟩
  rintro word stored rfl
  apply unused
  exact List.mem_map.mpr ⟨.word word, List.mem_filter.mpr ⟨stored, decide_eq_true rfl⟩, rfl⟩

/-- Where a text is free and there is room, the search for a token can come to an end. -/
theorem HasFreeToken.can_draw (free : catalogue.HasFreeToken length) (positive : 0 < length)
    (leads : ∀ which, catalogue.Leads which) (room : catalogue.isFull .word = false) :
    catalogue.CanDrawForKeys length := by
  intro key variants label filled absent
  obtain ⟨token, drawable, unused⟩ := free
  have notTaken : catalogue.wordOfToken? token = none := by
    by_contra found
    obtain ⟨word, found⟩ := Option.ne_none_iff_exists'.mp found
    obtain ⟨stored, same⟩ := (searches_soundly leads).words token word found
    exact unused word stored same
  let source : TokenSource :=
    ⟨length, TokenSource.standardStock, fun _ => 0, 0, positive, by decide⟩
  have drawable : IsTextOf source.stock source.length token ∧
      (catalogue.takeId .word).2.wordOfToken? token = none := ⟨drawable, notTaken⟩
  obtain ⟨numbers, drawn⟩ := Action.draws_word_iff.mpr drawable
  refine ⟨{ source with numbers }, rfl, rfl, ?_⟩
  rw [Action.run_on_word_new variants label ⟨catalogue, { source with numbers }⟩ filled absent room]
  rcases run : Action.runOn Action.drawWordToken
    ⟨(catalogue.takeId .word).2, { source with numbers }⟩ with ⟨outcome, middle⟩
  rw [run] at drawn
  obtain rfl : outcome = .ok token := drawn
  have same : middle.catalogue = (catalogue.takeId .word).2 := by
    rw [← show (Action.runOn Action.drawWordToken _).2 = middle from congrArg Prod.snd run]
    exact (Action.run_on_draw_token _ _).1
  rw [Action.run_on_bind_ok run, Action.run_on_bind, Action.run_on_put,
    Catalogue.put_room (by rw [same]; exact room)]
  exact ⟨_, rfl⟩

/-- Where all texts stand for words and there is room, no search for a token comes to an end. -/
theorem not_can_draw (taken : ∀ token, IsTextOf TokenSource.standardStock length token →
      catalogue.wordOfToken? token ≠ none)
    (room : catalogue.isFull .word = false) {key : Text} (filled : key ≠ [])
    (absent : catalogue.wordOfKey? key = none) : ¬ catalogue.CanDrawForKeys length := by
  intro can
  obtain ⟨tokens, stock, long, word, given⟩ := can key [] [] filled absent
  rcases run : Action.runOn (Action.wordForKey key [] []) ⟨catalogue, tokens⟩ with ⟨outcome, after⟩
  rw [run] at given
  obtain rfl : outcome = .ok word := given
  rw [Action.run_on_word_new [] [] ⟨catalogue, tokens⟩ filled absent room] at run
  obtain ⟨token, middle, drawn, _⟩ := Action.run_on_bind_success run
  obtain ⟨drawable, free⟩ := Action.draws_word_iff.mp ⟨tokens.numbers, congrArg Prod.fst drawn⟩
  rw [stock, long] at drawable
  exact taken token drawable free

/-- A word that bears one text as its id, its label and its token. -/
def wordCalled (name : Text) : WordEntity := ⟨name, name, name, [], [], []⟩

/-- The words of a catalogue are those called by some names, and nothing else is stored. -/
structure HoldsWordsCalled (names : List Text) (catalogue : Catalogue) : Prop where
  only : ∀ entity ∈ catalogue.entities, ∃ name ∈ names, entity = .word (wordCalled name)
  found : ∀ name ∈ names, catalogue.wordOfToken? name = some (wordCalled name)
  counted : catalogue.count .word = names.length

/-- A word that is called by a further name. -/
theorem HoldsWordsCalled.store {names : List Text} (holds : catalogue.HoldsWordsCalled names)
    (leads : catalogue.Leads .wordTokens) {name : Text} (filled : name ≠ []) (new : name ∉ names) :
    (catalogue.store (.word (wordCalled name))).HoldsWordsCalled (names ++ [name]) := by
  have fresh : catalogue.find? (Entity.word (wordCalled name)).id = none := by
    rw [find_none_iff]
    intro entity stored same
    obtain ⟨other, listed, rfl⟩ := holds.only entity stored
    have same : other = name := same
    exact new (same ▸ listed)
  constructor
  case only =>
    rw [store_fresh_entities fresh, List.forall_mem_append]
    constructor
    · intro entity stored
      obtain ⟨other, listed, same⟩ := holds.only entity stored
      exact ⟨other, List.mem_append_left _ listed, same⟩
    · intro entity stored
      exact ⟨name, by simp, List.mem_singleton.mp stored⟩
  case found =>
    intro other listed
    have followed := leads.follow_store_fresh fresh filled other
    rw [wordOfToken?]
    by_cases same : name = other
    · subst same
      rw [if_pos ⟨rfl, filled⟩] at followed
      exact congrArg (Option.bind · Entity.word?) followed
    · rw [if_neg (fun entered => same (Option.some.inj entered.1))] at followed
      have earlier : other ∈ names := by
        rcases List.mem_append.mp listed with earlier | last
        · exact earlier
        · exact absurd (List.mem_singleton.mp last).symm same
      exact (congrArg (Option.bind · Entity.word?) followed).trans (holds.found other earlier)
  case counted =>
    rw [count_store_fresh fresh, holds.counted, List.length_append]
    rfl

/-- Words called by all texts of a length leave none of them free. -/
theorem HoldsWordsCalled.not_free
    (holds : catalogue.HoldsWordsCalled (textsOf TokenSource.standardStock length))
    (leads : ∀ which, catalogue.Leads which) : ¬ catalogue.HasFreeToken length := by
  rintro ⟨token, drawable, unused⟩
  have found := holds.found token (mem_textsOf.mpr drawable)
  exact unused _ ((searches_soundly leads).words _ _ found).1 rfl

/-- Words called by all texts of a length leave no token for another word. -/
theorem HoldsWordsCalled.not_can_draw
    (holds : catalogue.HoldsWordsCalled (textsOf TokenSource.standardStock length))
    (leads : ∀ which, catalogue.Leads which) (room : catalogue.isFull .word = false) :
    ¬ catalogue.CanDrawForKeys length := by
  have absent : catalogue.wordOfKey? ['K'] = none := by
    by_contra found
    obtain ⟨word, found⟩ := Option.ne_none_iff_exists'.mp found
    obtain ⟨stored, keyed⟩ := (searches_soundly leads).keys _ _ found
    obtain ⟨name, _, same⟩ := holds.only _ stored
    obtain rfl := Entity.word.inj same
    cases keyed
  apply Catalogue.not_can_draw _ room (by simp) absent
  intro token drawable
  rw [holds.found token (mem_textsOf.mpr drawable)]
  simp

end Catalogue

/-- The requests that store words called by names. -/
def callWords (names : List Text) : List Request :=
  names.map (fun name => .operate (.put (.word (Catalogue.wordCalled name))))

section Start

variable {start : Workspace} {limit : Nat} (unused : start.catalogue = .empty limit)
include unused

/-- After any requests the indexes lead to stored entities. -/
theorem leads_after_requests (requests : List Request) (which : IndexKind) :
    (afterRequests requests start).catalogue.Leads which :=
  stable_after_requests (Catalogue.leads_stable which) requests (unused ▸ leads_empty limit which)

/-- After any requests there is room for a word exactly if there are fewer words than the limit. -/
theorem room_after_requests (requests : List Request) :
    (afterRequests requests start).catalogue.isFull .word = false ↔
      (afterRequests requests start).catalogue.count .word < limit := by
  have initial : start.catalogue.Fits limit (fun _ => 0) := unused ▸ Catalogue.fits_empty limit
  rw [Catalogue.isFull, (fits_after_requests requests initial).limited, decide_eq_false_iff_not]
  omega

/-- Words called by distinct names are stored as long as there is room for them. -/
theorem holds_words_called {names : List Text} (distinct : names.Nodup)
    (filled : ∀ name ∈ names, name ≠ []) (enough : names.length ≤ limit) :
    (afterRequests (callWords names) start).catalogue.HoldsWordsCalled names := by
  induction names using List.reverseRecOn with
  | nil =>
    rw [show (afterRequests (callWords []) start).catalogue = _ from unused]
    exact ⟨nofun, nofun, rfl⟩
  | append_singleton names name inductionHypothesis =>
    obtain ⟨distinctBefore, _, apart⟩ := List.nodup_append.mp distinct
    obtain ⟨filledBefore, filledLast⟩ := List.forall_mem_append.mp filled
    rw [List.length_append, List.length_singleton] at enough
    have holds := inductionHypothesis distinctBefore filledBefore (by omega)
    have new : name ∉ names := fun listed => apart name listed name (by simp) rfl
    have room : (afterRequests (callWords names) start).catalogue.isFull .word = false := by
      rw [room_after_requests unused, holds.counted]
      omega
    have last : afterRequests (callWords (names ++ [name])) start =
        (Action.runOn (Action.put (.word (Catalogue.wordCalled name)))
          (afterRequests (callWords names) start)).2 := by
      rw [callWords, List.map_append, after_requests_append]
      rfl
    rw [last, Action.run_on_put, Catalogue.put_room (by exact room)]
    exact holds.store (leads_after_requests unused _ .wordTokens) (filledLast name (by simp)) new

/-- Where the limit is larger, words called by all texts leave room for another word. -/
theorem exhausted_with_room {length : Nat} (positive : 0 < length) (short : 62 ^ length < limit) :
    ∃ requests, (afterRequests requests start).catalogue.count .word < limit ∧
      (afterRequests requests start).catalogue.HoldsWordsCalled
        (textsOf TokenSource.standardStock length) := by
  have number : (textsOf TokenSource.standardStock length).length = 62 ^ length :=
    length_textsOf ..
  have filled : ∀ name ∈ textsOf TokenSource.standardStock length, name ≠ [] := by
    intro name listed
    exact List.ne_nil_of_length_pos ((mem_textsOf.mp listed).long ▸ positive)
  have distinct := nodup_textsOf TokenSource.standard_stock_nodup length
  have holds := holds_words_called unused distinct filled (by omega)
  refine ⟨_, ?_, holds⟩
  rw [holds.counted]
  omega

end Start

/-- A property that the catalogue has after any requests that leave fewer words than a limit. -/
def HoldsWithRoom (start : Workspace) (limit : Int) (property : Catalogue → Prop) : Prop :=
  ∀ requests, (afterRequests requests start).catalogue.count .word < limit →
    property (afterRequests requests start).catalogue

/-- Accepted settings allow at least one entity of a kind, and tokens of at least one character. -/
theorem Settings.positive_of_accepted {settings : Settings} {warnings : List String}
    (accepted : settings.validate = .ok warnings) :
    1 ≤ settings.entityLimit ∧ 1 ≤ settings.tokenLength := by
  unfold validate at accepted
  split at accepted
  · cases accepted
  · next allowed =>
    split at accepted
    · cases accepted
    · next long => exact ⟨by omega, by omega⟩

/-- Under accepted settings a token is free whenever there is room for another word, and the search
for one can come to an end, exactly if the limit is no larger than the number of texts that can be
drawn. -/
theorem tokens_suffice_iff (surroundings : CommandLine.Surroundings) {settings : Settings}
    {warnings : List String} (accepted : settings.validate = .ok warnings) :
    (HoldsWithRoom (CommandLine.emptyWorkspace surroundings settings) settings.entityLimit
        (Catalogue.HasFreeToken settings.tokenLength.toNat) ↔
      settings.entityLimit ≤ 62 ^ settings.tokenLength.toNat) ∧
    (HoldsWithRoom (CommandLine.emptyWorkspace surroundings settings) settings.entityLimit
        (Catalogue.CanDrawForKeys settings.tokenLength.toNat) ↔
      settings.entityLimit ≤ 62 ^ settings.tokenLength.toNat) := by
  obtain ⟨someWord, someLength⟩ := settings.positive_of_accepted accepted
  obtain ⟨limit, sameLimit⟩ := Int.eq_ofNat_of_zero_le (show 0 ≤ settings.entityLimit by omega)
  have positive : 0 < settings.tokenLength.toNat := by omega
  have unused : (CommandLine.emptyWorkspace surroundings settings).catalogue = .empty limit :=
    congrArg Catalogue.empty sameLimit
  generalize settings.tokenLength.toNat = length at positive ⊢
  generalize CommandLine.emptyWorkspace surroundings settings = start at unused ⊢
  rw [sameLimit]
  have enough_iff : (limit : Int) ≤ 62 ^ length ↔ limit ≤ 62 ^ length := by norm_cast
  rw [enough_iff]
  constructor
  · constructor
    · intro always
      by_contra short
      obtain ⟨requests, room, holds⟩ := exhausted_with_room unused positive (by omega)
      exact holds.not_free (leads_after_requests unused requests) (always requests (by omega))
    · intro enough requests room
      exact Catalogue.free_of_count (by omega)
  · constructor
    · intro always
      by_contra short
      obtain ⟨requests, room, holds⟩ := exhausted_with_room unused positive (by omega)
      exact holds.not_can_draw (leads_after_requests unused requests)
        ((room_after_requests unused requests).mpr room) (always requests (by omega))
    · intro enough requests room
      have free : (afterRequests requests start).catalogue.HasFreeToken length :=
        Catalogue.free_of_count (by omega)
      exact free.can_draw positive (leads_after_requests unused requests)
        ((room_after_requests unused requests).mpr (by omega))

/-- Surroundings without files. -/
def bareSurroundings : CommandLine.Surroundings :=
  ⟨[], [], fun _ => .nothing, [], congruential 1⟩

/-- Settings with tokens of a single character and one word more than there are such tokens. -/
def tightSettings : Settings := { Settings.standard with entityLimit := 63, tokenLength := 1 }

/-- These settings are accepted, and words may take up all the tokens below the limit. Under the usual
settings they may not. -/
theorem tokens_run_out_under_tight_settings :
    (∃ warnings, tightSettings.validate = .ok warnings) ∧
      ¬ HoldsWithRoom (CommandLine.emptyWorkspace bareSurroundings tightSettings) 63
        (Catalogue.HasFreeToken 1) ∧
      ¬ HoldsWithRoom (CommandLine.emptyWorkspace bareSurroundings tightSettings) 63
        (Catalogue.CanDrawForKeys 1) ∧
      (∃ warnings, Settings.standard.validate = .ok warnings) ∧
      HoldsWithRoom (CommandLine.emptyWorkspace bareSurroundings .standard) 30
        (Catalogue.CanDrawForKeys 5) := by
  have acceptedTight : ∃ warnings, tightSettings.validate = .ok warnings := ⟨_, rfl⟩
  have acceptedUsual : ∃ warnings, Settings.standard.validate = .ok warnings := ⟨_, rfl⟩
  obtain ⟨_, tight⟩ := acceptedTight
  obtain ⟨_, usual⟩ := acceptedUsual
  obtain ⟨free, draw⟩ := tokens_suffice_iff bareSurroundings tight
  have short : ¬ tightSettings.entityLimit ≤ 62 ^ tightSettings.tokenLength.toNat := by decide
  have enough : Settings.standard.entityLimit ≤ 62 ^ Settings.standard.tokenLength.toNat := by decide
  exact ⟨⟨_, tight⟩, fun always => short (free.mp always), fun always => short (draw.mp always),
    ⟨_, usual⟩, (tokens_suffice_iff bareSurroundings usual).2.mpr enough⟩

end PriorArt
