import Foodly.Cart.Controller
import Foodly.Cart.Promo

namespace Foodly

open Swift Decimal Runs

/-!
# Promo codes from Remote Config

The cart screen fetches its promo codes when it is opened: the fetch, the activation and the block
that stores the texts come one after the other, and the screen can be used in between.

* `RemoteConfig` — the values in force, those fetched last, and the defaults, with `stringValue`,
  `fetched` and `activate` as the vendored library has them;
* `PromoScreen` — the cart screen with its promo field, the fetches, activations and blocks that
  are under way, and the offers that are presented;
* `PromoScreen.step_spec` — for the discount in force, the offers, the stored codes and the queued
  blocks, the one event each that can bring in something new;
* `PromoScreen.stored_codes_activated` — the codes stored are those that were active when an
  earlier activation completed;
* `PromoScreen.discount_needs_code` — follows a discount back through a run of the screen: it was
  accepted after the promo button had been tapped with an input that passed the check, against
  codes that were active in Remote Config when an earlier activation completed, or before any had
  been stored.
-/

variable {Image : Type} (R : Nearest) (M : CaseMapping)

/-! ### Remote Config -/

/-- The text of each key, `none` when its data is not text. -/
abbrev ConfigValues := List (String × Option String)

/-- `RemoteConfig`: the values in force, those fetched last, and whether these are still to be
    activated. -/
structure RemoteConfig where
  activeConfig : ConfigValues := []
  defaultConfig : ConfigValues := []
  fetchedConfig : ConfigValues := []
  unapplied : Bool := false
  deriving DecidableEq, Repr

namespace RemoteConfig

/-- `configValue(forKey:).stringValue`: a key without a value has the empty text. -/
def stringValue (config : RemoteConfig) (key : String) : Option String :=
  match config.activeConfig.lookup key with
  | some value => value
  | none => match config.defaultConfig.lookup key with
    | some value => value
    | none => some ""

/-- A fetch that succeeds; `none` when nothing has changed since the last one. -/
def fetched (config : RemoteConfig) : Option ConfigValues → RemoteConfig
  | some fetchedConfig => { config with fetchedConfig, unapplied := true }
  | none => config

/-- `activate`: the values fetched last replace those in force, once. -/
def activate (config : RemoteConfig) : RemoteConfig :=
  if config.unapplied then
    { config with activeConfig := config.fetchedConfig, unapplied := false }
  else config

/-- What the completion of `activate` passes to the main queue. -/
def promoCodes (config : RemoteConfig) : RemoteConfigPromoCodes :=
  RemoteConfigPromoCodes.activated {} (config.stringValue "tax") (config.stringValue "promoCode")

end RemoteConfig

/-! ### The screen -/

/-- The cart screen with its promo field, the fetches and activations under way, the blocks on the
    main queue, and the offers that are presented. -/
structure PromoScreen (Image : Type) where
  cart : CartsViewController Image
  promoCodeTextField : Option String := some ""
  getPromoDiscount : RemoteConfigPromoCodes := {}
  remoteConfig : RemoteConfig := {}
  fetches : ℕ := 0
  activations : ℕ := 0
  mainQueue : List RemoteConfigPromoCodes := []
  offers : ℕ := 0

/-- What happens on the screen. -/
inductive PromoEvent
  | cart (action : CartAction)
  | edit (text : Option String)
  | promoBtnPressed
  | accept
  | fetched (success : Bool) (values : Option ConfigValues)
  | activated (error : Option FirestoreError)
  | mainQueue
  deriving DecidableEq, Repr

namespace PromoScreen

/-- `fetchValue()`: the defaults are set, and a fetch is started. -/
def fetchValue (s : PromoScreen Image) : PromoScreen Image :=
  { s with
    remoteConfig := { s.remoteConfig with defaultConfig := [("tax", some "5")] }
    fetches := s.fetches + 1 }

/-- What `validatePromoCode` reads. -/
def form (s : PromoScreen Image) : PromoForm where
  getPromoDiscount := s.getPromoDiscount
  promoCodeTextField := s.promoCodeTextField
  restDiscountValue := s.cart.restDiscountValue

/-- One event.  The offer is accepted in its alert, and the other actions are those of the cart. -/
def step [BEq String] (s : PromoScreen Image) : PromoEvent → Option (PromoScreen Image)
  | .cart .acceptPromo => none
  | .cart action => do
    let cart ← s.cart.step R action
    return { s with cart }
  | .edit promoCodeTextField => some { s with promoCodeTextField }
  | .promoBtnPressed =>
    let (valid, _) := s.form.validatePromoCode M
    some { s with offers := if valid then s.offers + 1 else s.offers }
  | .accept =>
    match s.offers with
    | 0 => none
    | offers + 1 => do
      let cart ← s.cart.reloadCartWithDiscount R
      return { s with cart, offers }
  | .fetched success values =>
    match s.fetches with
    | 0 => none
    | fetches + 1 =>
      if success then
        -- `activate` is called at once, and calls back later.
        let remoteConfig := (s.remoteConfig.fetched values).activate
        some { s with remoteConfig, fetches, activations := s.activations + 1 }
      else some { s with fetches }
  | .activated error =>
    match s.activations with
    | 0 => none
    | activations + 1 =>
      match error with
      | some _ => some { s with activations }
      | none => some { s with
          activations
          mainQueue := s.mainQueue ++ [s.remoteConfig.promoCodes] }
  | .mainQueue =>
    match s.mainQueue with
    | [] => none
    | getPromoDiscount :: mainQueue => some { s with getPromoDiscount, mainQueue }

end PromoScreen

/-! ### What leaves the discount alone -/

namespace CartsViewController

variable {R}

theorem totalDiscount_showAmounts {s t : CartsViewController Image} {amounts : List ℚ}
    (h : s.showAmounts R amounts = some t) : t.totalDiscount = s.totalDiscount := by
  obtain ⟨tax, -, ht⟩ := Option.bind_eq_some_iff.mp h
  obtain rfl : _ = t := Option.some.inj ht
  rfl

theorem totalDiscount_reloadCart {s t : CartsViewController Image}
    (h : s.reloadCart R = some t) : t.totalDiscount = s.totalDiscount := by
  simp only [reloadCart, rebuildItems, Option.bind_eq_bind, Option.bind_eq_some_iff,
    Option.pure_def, Option.some.injEq] at h
  obtain ⟨_, ⟨viewModel, -, rfl⟩, ht⟩ := h
  exact totalDiscount_showAmounts (s := { s with viewModel }) ht

theorem totalDiscount_addBtnTapped {s t : CartsViewController Image} {row : ℕ} {plus : Bool}
    (h : s.addBtnTapped R row plus = some t) : t.totalDiscount = s.totalDiscount := by
  simp only [addBtnTapped, Option.bind_eq_bind, Option.bind_eq_some_iff] at h
  obtain ⟨number, -, quantity, -, h⟩ := h
  -- Every branch that reloads goes through `totalAmount`, which keeps the discount.
  split at h
  · obtain ⟨after, -, h⟩ := Option.bind_eq_some_iff.mp h
    exact (totalDiscount_reloadCart h).trans rfl
  · simp only [Option.bind_eq_some_iff] at h
    obtain ⟨quantity, -, after, -, h⟩ := h
    split at h
    · exact (totalDiscount_reloadCart h).trans rfl
    · split at h
      · -- The last of a meal: one value goes from each of the four arrays.
        simp only [Option.bind_eq_some_iff] at h
        obtain ⟨cartPrice, -, cartNumber, -, cartTitles, -, cartImage, -, h⟩ := h
        exact (totalDiscount_reloadCart h).trans rfl
      · obtain rfl : _ = t := Option.some.inj h
        rfl

/-- Only an accepted promo changes the discount in force. -/
theorem totalDiscount_step {s t : CartsViewController Image} {action : CartAction}
    (haction : action ≠ .acceptPromo) (h : s.step R action = some t) :
    t.totalDiscount = s.totalDiscount := by
  cases action with
  | tap row plus => exact totalDiscount_addBtnTapped h
  | acceptPromo => exact absurd rfl haction
  | viewDidAppear => exact totalDiscount_showAmounts h
  | delete row =>
    obtain ⟨items, -, ht⟩ := Option.bind_eq_some_iff.mp h
    obtain rfl : _ = t := Option.some.inj ht
    rfl

end CartsViewController

/-! ### One event -/

namespace PromoScreen

section
variable [BEq String] {R M} {s t : PromoScreen Image} {event : PromoEvent}

/-- An action of the cart changes the cart, and is not the acceptance of an offer. -/
theorem step_cart {action : CartAction} (h : s.step R M (.cart action) = some t) :
    action ≠ .acceptPromo ∧ ∃ cart, s.cart.step R action = some cart ∧ t = { s with cart } := by
  have hbind : ∀ action, (s.cart.step R action).bind (fun cart => some { s with cart }) = some t →
      ∃ cart, s.cart.step R action = some cart ∧ t = { s with cart } := by
    intro action h
    obtain ⟨cart, hcart, ht⟩ := Option.bind_eq_some_iff.mp h
    exact ⟨cart, hcart, (Option.some.inj ht).symm⟩
  -- `Accept` is not an action of the cart here, but the button of an alert that has been offered.
  cases action with
  | acceptPromo => cases h
  | tap row plus => exact ⟨by simp, hbind _ h⟩
  | viewDidAppear => exact ⟨by simp, hbind _ h⟩
  | delete row => exact ⟨by simp, hbind _ h⟩

/-- What an event does to the discount, to the offers, to the codes and to the blocks on their
    way: each has one event that can bring in something new. -/
theorem step_spec (h : s.step R M event = some t) :
    (event = .accept ∧ 0 < s.offers ∨ t.cart.totalDiscount = s.cart.totalDiscount) ∧
    (event = .promoBtnPressed ∧ (s.form.validatePromoCode M).1 = true ∨ t.offers ≤ s.offers) ∧
    (event = .mainQueue ∧ t.getPromoDiscount ∈ s.mainQueue ∨
      t.getPromoDiscount = s.getPromoDiscount) ∧
    (event = .activated none ∧ t.mainQueue = s.mainQueue ++ [s.remoteConfig.promoCodes] ∨
      t.mainQueue ⊆ s.mainQueue) := by
  have hsame := List.Subset.refl s.mainQueue
  cases event with
  | cart action =>
    obtain ⟨haction, cart, hcart, rfl⟩ := step_cart h
    exact ⟨.inr (CartsViewController.totalDiscount_step haction hcart), .inr le_rfl, .inr rfl,
      .inr hsame⟩
  | edit text =>
    obtain rfl : _ = t := Option.some.inj h
    exact ⟨.inr rfl, .inr le_rfl, .inr rfl, .inr hsame⟩
  | promoBtnPressed =>
    simp only [step, Option.some.injEq] at h
    subst h
    refine ⟨.inr rfl, ?_, .inr rfl, .inr hsame⟩
    -- An alert that offers the discount is only presented when the check accepts.
    cases hvalid : (s.form.validatePromoCode M).1 with
    | true => exact .inl ⟨rfl, rfl⟩
    | false => simp
  | accept =>
    rw [step] at h
    split at h
    · cases h
    next offers hoffers =>
      obtain ⟨cart, -, ht⟩ := Option.bind_eq_some_iff.mp h
      obtain rfl : _ = t := Option.some.inj ht
      exact ⟨.inl ⟨rfl, by omega⟩, .inr (by simp only; omega), .inr rfl, .inr hsame⟩
  | fetched success values =>
    rw [step] at h
    split at h
    · cases h
    · split at h
      · obtain rfl : _ = t := Option.some.inj h
        exact ⟨.inr rfl, .inr le_rfl, .inr rfl, .inr hsame⟩
      · obtain rfl : _ = t := Option.some.inj h
        exact ⟨.inr rfl, .inr le_rfl, .inr rfl, .inr hsame⟩
  | activated error =>
    rw [step] at h
    split at h
    · cases h
    · -- A block for the fetched codes is dispatched when they are activated without an error.
      cases error with
      | some error =>
        obtain rfl : _ = t := Option.some.inj h
        exact ⟨.inr rfl, .inr le_rfl, .inr rfl, .inr hsame⟩
      | none =>
        obtain rfl : _ = t := Option.some.inj h
        exact ⟨.inr rfl, .inr le_rfl, .inr rfl, .inl ⟨rfl, rfl⟩⟩
  | mainQueue =>
    rw [step] at h
    split at h
    · cases h
    next first rest hqueue =>
      obtain rfl : _ = t := Option.some.inj h
      rw [hqueue]
      exact ⟨.inr rfl, .inr le_rfl, .inl ⟨rfl, List.mem_cons_self⟩,
        .inr (List.subset_cons_self _ _)⟩

/-! ### Runs -/

/-- The codes that have been stored were active in Remote Config when an activation completed. -/
theorem stored_codes_activated {events : List PromoEvent} (hqueue : s.mainQueue = [])
    (hcodes : s.getPromoDiscount = {}) (ht : run (step R M) s events = some t) :
    t.getPromoDiscount = {} ∨ ∃ before after u, events = before ++ .activated none :: after ∧
      run (step R M) s before = some u ∧ t.getPromoDiscount = u.remoteConfig.promoCodes := by
  by_cases hnew : t.getPromoDiscount = {}
  · exact .inl hnew
  right
  -- back from the codes to the block that stored them
  obtain ⟨before, event, after, u, v, rfl, hu, hnot, hv, heq⟩ :=
    exists_step_of_run (P := fun u => u.getPromoDiscount = t.getPromoDiscount)
      (fun heq => hnew (heq.symm.trans hcodes)) ht rfl
  have hblock : t.getPromoDiscount ∈ u.mainQueue := by
    rcases (step_spec hv).2.2.1 with ⟨-, hmem⟩ | hsame
    · exact heq ▸ hmem
    · exact absurd (hsame.symm.trans heq) hnot
  -- and from the block to the activation that queued it
  obtain ⟨before', event', after', u', v', rfl, hu', hnot', hv', hmem⟩ :=
    exists_step_of_run (P := fun u => t.getPromoDiscount ∈ u.mainQueue)
      (by rw [hqueue]; exact List.not_mem_nil) hu hblock
  rcases (step_spec hv').2.2.2 with ⟨rfl, hqueued⟩ | hsame
  · rw [hqueued, List.mem_append, List.mem_singleton] at hmem
    refine ⟨before', after' ++ event :: after, u', by simp, hu', ?_⟩
    exact hmem.resolve_left hnot'
  · exact absurd (hsame hmem) hnot'

/-- **A discount needs a code.**  When a discount is in force at the end of a run, it was accepted
    after a tap on the promo button whose input passed the check against the codes stored then; and
    these were active in Remote Config when an earlier activation completed, if any had been stored
    at all. -/
theorem discount_needs_code {events : List PromoEvent} (hdiscount : s.cart.totalDiscount = 0)
    (hoffers : s.offers = 0) (hqueue : s.mainQueue = []) (hcodes : s.getPromoDiscount = {})
    (ht : run (step R M) s events = some t) (hforce : t.cart.totalDiscount ≠ 0) :
    ∃ before after u, events = before ++ .promoBtnPressed :: after ∧ .accept ∈ after ∧
      run (step R M) s before = some u ∧ (u.form.validatePromoCode M).1 = true ∧
      (u.getPromoDiscount = {} ∨ ∃ before' after' v, before = before' ++ .activated none :: after' ∧
        run (step R M) s before' = some v ∧ u.getPromoDiscount = v.remoteConfig.promoCodes) := by
  -- back from the discount to its acceptance
  obtain ⟨before, event, after, u, v, rfl, hu, hnot, hv, hnew⟩ :=
    exists_step_of_run (P := fun u => u.cart.totalDiscount ≠ 0) (not_not.mpr hdiscount) ht hforce
  obtain ⟨rfl, hoffered⟩ : event = .accept ∧ 0 < u.offers := by
    rcases (step_spec hv).1 with haccept | hsame
    · exact haccept
    · rw [not_not] at hnot
      exact absurd (hsame.trans hnot) hnew
  -- and from the offer to the tap that made it
  obtain ⟨before', event', after', u', v', rfl, hu', hnot', hv', hpos⟩ :=
    exists_step_of_run (P := fun u => 0 < u.offers) (by omega) hu hoffered
  rcases (step_spec hv').2.1 with ⟨rfl, hvalid⟩ | hle
  · exact ⟨before', after' ++ .accept :: after, u', by simp, by simp, hu', hvalid,
      stored_codes_activated hqueue hcodes hu'⟩
  · exact absurd (hpos.trans_le hle) hnot'

end

/-- Half off ten dollars, with the code that was fetched. -/
theorem discount_needs_code_half :
    let opened : PromoScreen Unit :=
      fetchValue { cart := .handedOver ["Rice"] [10] [()] ["1"] "Mr Biggs" "50" }
    let events : List PromoEvent :=
      [.fetched true (some [("promoCode", some "save half")]), .activated none, .mainQueue,
        .edit (some " HALF "), .promoBtnPressed, .accept]
    ∃ before after u, events = before ++ .promoBtnPressed :: after ∧ .accept ∈ after ∧
      run (step .halfEven asciiCase) opened before = some u ∧
      (u.form.validatePromoCode asciiCase).1 = true ∧
      (u.getPromoDiscount = {} ∨ ∃ before' after' v, before = before' ++ .activated none :: after' ∧
        run (step .halfEven asciiCase) opened before' = some v ∧
        u.getPromoDiscount = v.remoteConfig.promoCodes) := by
  intro opened events
  have hrun : (run (step .halfEven asciiCase) opened events).map (·.cart.totalDiscount)
      = some 5 := by
    decide +kernel
  obtain ⟨t, ht, hforce⟩ := Option.map_eq_some_iff.mp hrun
  exact discount_needs_code rfl rfl rfl rfl ht (by rw [hforce]; decide)

end PromoScreen

end Foodly
