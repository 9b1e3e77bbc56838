/-
# Whose card a request is charged to

The chosen card is two integers in `UserDefaults`, `userStripeId` and `userCardSelected`,
written whenever a wallet goes off screen and read by every request.  Neither a logout nor a
sign-in touches them, and a wallet writes its own `userStripeId`, which is -1 until a card is
chosen on that very screen, next to a `selectedIndex` it has read back from the defaults.

The history remembers who is signed in, which cards the wallets offered and which were
chosen, on which wallet the last choice was made, and whose choice the stored pair is.
`owned_if_left` is the law with its condition, `card_of_the_last_client` the run that breaks
it without: the next client to sign in pays with the card of the one before.
-/
import WeatherAccommodation.Client.AppSteps
import WeatherAccommodation.Client.Billing

namespace WeatherAccommodation

open Foundation Reactive

/-! ## 1. The history -/

structure CardHistory where
  signedIn : Option Int := none
  offered : List (Int × StripeCard) := []
  chosen : List (Int × StripeCard) := []
  /-- On which wallet a card was chosen last, and by whom. -/
  lastChoice : Option (Nat × Int) := none
  /-- Who chose the stored pair: who was the last to choose a card when the wallet that was
  left last was the wallet of that choice. -/
  writer : Option Int := none

namespace CardHistory

def offer (h : CardHistory) (cards : List StripeCard) : CardHistory :=
  match h.signedIn with
  | some c => { h with offered := h.offered ++ cards.map fun card => (c, card) }
  | none => h

def choose (h : CardHistory) (wallet : Nat) (card : StripeCard) : CardHistory :=
  match h.signedIn with
  | some c => { h with chosen := h.chosen ++ [(c, card)], lastChoice := some (wallet, c) }
  | none => h

/-- A wallet is left: the stored pair is a choice if the last choice was made on it. -/
def leave (h : CardHistory) (wallet : Nat) : CardHistory :=
  { h with writer :=
    match h.lastChoice with
    | some (n, c) => if n = wallet then some c else none
    | none => none }

/-- The history variable.  Deleting the checked card checks its neighbour, which counts as a
choice. -/
def note (h : CardHistory) (a : ClientApp) (e : AppEvent) (b : ClientApp) : CardHistory :=
  match e with
  | .signInReply reply =>
    if Dict.int? reply "Success" = some successCode then
      { h with signedIn := Dict.int? reply "ClientId" }
    else h
  | .logout => { h with signedIn := none, lastChoice := none }
  | .cardListReply call _ =>
    match (a.cardCalls.waiting call).bind fun number => b.wallets[number]? with
    | some w => if w.onStack then h.offer w.cardList else h
    | none => h
  | .selectRow number row =>
    match a.wallets[number]?.bind fun w => w.cardList[row]? with
    | some card => h.choose number card
    | none => h
  | .deleteRow number row =>
    match a.wallets[number]?.bind fun w => w.fallback row with
    | some card => h.choose number card
    | none => h
  | .leaveWallet number _ => h.leave number
  | _ => h

/-- The pair is a card that was offered to the client and chosen while it was signed in. -/
def Owned (h : CardHistory) (client customerId sourceId : Int) : Prop :=
  ∃ card, (client, card) ∈ h.offered ∧ (client, card) ∈ h.chosen ∧
    customerId = card.clientStripeCustomerId ∧ sourceId = card.clientStripeCustomerSourceId

/-- The same, unless no card is chosen at all. -/
def Held (h : CardHistory) (client customerId sourceId : Int) : Prop :=
  sourceId = -1 ∨ h.Owned client customerId sourceId

variable {h h' : CardHistory} {c customerId sourceId : Int}

theorem Owned.mono (hoffered : h.offered ⊆ h'.offered) (hchosen : h.chosen ⊆ h'.chosen)
    (ho : h.Owned c customerId sourceId) : h'.Owned c customerId sourceId := by
  obtain ⟨card, h₁, h₂, h₃, h₄⟩ := ho
  exact ⟨card, hoffered h₁, hchosen h₂, h₃, h₄⟩

theorem Held.mono (hoffered : h.offered ⊆ h'.offered) (hchosen : h.chosen ⊆ h'.chosen)
    (hh : h.Held c customerId sourceId) : h'.Held c customerId sourceId :=
  hh.imp id (Owned.mono hoffered hchosen)

/-! ## 2. The invariant -/

/-- What the history says about the wallets and the stored pair. -/
structure Kept (x : ClientApp × CardHistory) : Prop where
  present : x.1.onMain = false → ∃ c, x.2.signedIn = some c
  onStack : ∀ (n : Nat) (w : Wallet), x.1.wallets[n]? = some w → w.onStack = true →
    x.1.onMain = false
  onScreen : ∀ (n : Nat) (w : Wallet), x.1.wallets[n]? = some w → w.onScreen = true →
    w.onStack = true
  single : ∀ (n m : Nat) (v w : Wallet), x.1.wallets[n]? = some v → x.1.wallets[m]? = some w →
    v.onScreen = true → w.onScreen = true → n = m
  offered : ∀ (n : Nat) (w : Wallet) (c : Int), x.1.wallets[n]? = some w → w.onStack = true →
    x.2.signedIn = some c → ∀ card ∈ w.cardList, (c, card) ∈ x.2.offered
  opened : ∀ n c, x.2.lastChoice = some (n, c) → n < x.1.wallets.length
  /-- The stored pair, if it is a choice. -/
  writer : ∀ c, x.2.writer = some c → x.2.Held c (x.1.device.defaults.getInt .userStripeId)
    (x.1.device.defaults.getInt .userCardSelected)
  /-- The wallet of the last choice, and what the wallet on screen would write. -/
  shown : ∀ (n : Nat) (c : Int) (w : Wallet) (m : Nat) (v : Wallet),
    x.2.lastChoice = some (n, c) → x.1.wallets[n]? = some w → x.1.wallets[m]? = some v →
      v.onScreen = true → x.2.Held c w.userStripeId v.selectedIndex
  /-- The wallet of the last choice, and what it would read when it comes back. -/
  stored : ∀ (n : Nat) (c : Int) (w : Wallet), x.2.lastChoice = some (n, c) →
    x.1.wallets[n]? = some w → w.onScreen = false →
      x.2.Held c w.userStripeId (x.1.device.defaults.getInt .userCardSelected)

variable {distance : CLLocation → CLLocation → ℚ} {x y : ClientApp × CardHistory}

/-- What changes neither the wallets nor the stored pair nor who is signed in. -/
theorem Kept.quiet {b : ClientApp} (hx : Kept x) (hwallets : b.wallets = x.1.wallets)
    (hmain : b.onMain = x.1.onMain)
    (hstripe : b.device.defaults.getInt .userStripeId = x.1.device.defaults.getInt .userStripeId)
    (hcard : b.device.defaults.getInt .userCardSelected
      = x.1.device.defaults.getInt .userCardSelected) : Kept (b, x.2) := by
  exact {
    present := by simpa only [hmain] using hx.present
    onStack := by simpa only [hmain, hwallets] using hx.onStack
    onScreen := by simpa only [hwallets] using hx.onScreen
    single := by simpa only [hwallets] using hx.single
    offered := by simpa only [hwallets] using hx.offered
    opened := by simpa only [hwallets] using hx.opened
    writer := by simpa only [hstripe, hcard] using hx.writer
    shown := by simpa only [hwallets] using hx.shown
    stored := by simpa only [hwallets, hcard] using hx.stored }

/-- The wallets after one of them was replaced. -/
theorem getElem?_putWallet {a : ClientApp} {number n : Nat} {w v : Wallet}
    (h : (a.putWallet number w).wallets[n]? = some v) :
    (n = number ∧ v = w) ∨ (n ≠ number ∧ a.wallets[n]? = some v) := by
  simp only [ClientApp.putWallet, List.getElem?_set] at h
  split at h
  · rename_i heq
    split at h
    · exact Or.inl ⟨heq.symm, (Option.some.inj h).symm⟩
    · exact absurd h (by simp)
  · rename_i hne
    exact Or.inr ⟨fun heq => hne heq.symm, h⟩

/-- A reply gives a wallet another list, of cards that were offered if it is still there. -/
theorem Kept.relist {number : Nat} {w : Wallet} {cards : List StripeCard} {k : CardHistory}
    (hx : Kept x) (hw : x.1.wallets[number]? = some w)
    (hoffered : x.2.offered ⊆ k.offered)
    (hk : k = { x.2 with offered := k.offered })
    (hcards : ∀ c, w.onStack = true → x.2.signedIn = some c → ∀ card ∈ cards,
      (c, card) ∈ k.offered) :
    Kept (x.1.putWallet number { w with cardList := cards }, k) := by
  have hmono : ∀ {c customerId sourceId : Int}, x.2.Held c customerId sourceId →
      k.Held c customerId sourceId := by
    intro c customerId sourceId hh
    exact hh.mono hoffered (by rw [hk]; exact fun _ h => h)
  have hsigned : k.signedIn = x.2.signedIn := by rw [hk]
  have hlast : k.lastChoice = x.2.lastChoice := by rw [hk]
  have hwriter : k.writer = x.2.writer := by rw [hk]
  -- every wallet is an old one, up to its list
  have hold : ∀ {n : Nat} {v : Wallet},
      (x.1.putWallet number { w with cardList := cards }).wallets[n]? = some v →
      ∃ u, x.1.wallets[n]? = some u ∧ v.onScreen = u.onScreen ∧ v.onStack = u.onStack ∧
        v.selectedIndex = u.selectedIndex ∧ v.userStripeId = u.userStripeId := by
    intro n v hv
    rcases getElem?_putWallet hv with ⟨rfl, rfl⟩ | ⟨_, hv⟩
    · exact ⟨w, hw, rfl, rfl, rfl, rfl⟩
    · exact ⟨v, hv, rfl, rfl, rfl, rfl⟩
  refine ⟨?_, ?_, ?_, ?_, ?_, ?_, ?_, ?_, ?_⟩
  · intro hmain
    exact hsigned ▸ hx.present hmain
  · intro n v hv hstack
    obtain ⟨u, hu, _, hs, _⟩ := hold hv
    exact hx.onStack n u hu (hs ▸ hstack)
  · intro n v hv hscreen
    obtain ⟨u, hu, hsc, hs, _⟩ := hold hv
    rw [hs]
    exact hx.onScreen n u hu (hsc ▸ hscreen)
  · intro n m v v' hv hv' hsc hsc'
    obtain ⟨u, hu, hus, _⟩ := hold hv
    obtain ⟨u', hu', hus', _⟩ := hold hv'
    exact hx.single n m u u' hu hu' (hus ▸ hsc) (hus' ▸ hsc')
  · intro n v c hv hstack hc card hcard
    simp only [hsigned] at hc
    rcases getElem?_putWallet hv with ⟨rfl, rfl⟩ | ⟨_, hv⟩
    · exact hcards c hstack hc card hcard
    · exact hoffered (hx.offered n v c hv hstack hc card hcard)
  · intro n c hlc
    rw [ClientApp.putWallet, List.length_set]
    exact hx.opened n c (hlast ▸ hlc)
  · intro c hc
    exact hmono (hx.writer c (hwriter ▸ hc))
  · intro n c v m v' hlc hv hv' hsc
    obtain ⟨u, hu, _, _, _, hstripe⟩ := hold hv
    obtain ⟨u', hu', hus', _, hsel, _⟩ := hold hv'
    rw [hstripe, hsel]
    exact hmono (hx.shown n c u m u' (hlast ▸ hlc) hu hu' (hus' ▸ hsc))
  · intro n c v hlc hv hsc
    obtain ⟨u, hu, hus, _, _, hstripe⟩ := hold hv
    rw [hstripe]
    exact hmono (hx.stored n c u (hlast ▸ hlc) hu (hus ▸ hsc))

/-- The wallet on screen is marked anew: whatever it would write now is in order for the
wallet of the last choice. -/
theorem Kept.mark {number : Nat} {w w' : Wallet} {k : CardHistory} (hx : Kept x)
    (hw : x.1.wallets[number]? = some w) (hon : w.onScreen = true)
    (hsame : w'.onScreen = w.onScreen ∧ w'.onStack = w.onStack ∧ w'.cardList = w.cardList)
    (hsigned : k.signedIn = x.2.signedIn) (hoffered : k.offered = x.2.offered)
    (hchosen : x.2.chosen ⊆ k.chosen) (hwriter : k.writer = x.2.writer)
    (hlast : k.lastChoice = x.2.lastChoice ∨ ∃ c, k.lastChoice = some (number, c))
    (hmarked : ∀ n c v, k.lastChoice = some (n, c) →
      (x.1.putWallet number w').wallets[n]? = some v → k.Held c v.userStripeId w'.selectedIndex) :
    Kept (x.1.putWallet number w', k) := by
  have hlt : number < x.1.wallets.length := (List.getElem?_eq_some_iff.mp hw).1
  have hmono : ∀ {c customerId sourceId : Int}, x.2.Held c customerId sourceId →
      k.Held c customerId sourceId := by
    intro c customerId sourceId hh
    exact hh.mono (by rw [hoffered]; exact fun _ h => h) hchosen
  have hold : ∀ {n : Nat} {v : Wallet}, (x.1.putWallet number w').wallets[n]? = some v →
      ∃ u, x.1.wallets[n]? = some u ∧ v.onScreen = u.onScreen ∧ v.onStack = u.onStack ∧
        v.cardList = u.cardList := by
    intro n v hv
    rcases getElem?_putWallet hv with ⟨rfl, rfl⟩ | ⟨_, hv⟩
    · exact ⟨w, hw, hsame.1, hsame.2.1, hsame.2.2⟩
    · exact ⟨v, hv, rfl, rfl, rfl⟩
  refine ⟨?_, ?_, ?_, ?_, ?_, ?_, ?_, ?_, ?_⟩
  · intro hmain
    exact hsigned ▸ hx.present hmain
  · intro n v hv hstack
    obtain ⟨u, hu, _, hs, _⟩ := hold hv
    exact hx.onStack n u hu (hs ▸ hstack)
  · intro n v hv hscreen
    obtain ⟨u, hu, hsc, hs, _⟩ := hold hv
    rw [hs]
    exact hx.onScreen n u hu (hsc ▸ hscreen)
  · intro n m v v' hv hv' hsc hsc'
    obtain ⟨u, hu, hus, _⟩ := hold hv
    obtain ⟨u', hu', hus', _⟩ := hold hv'
    exact hx.single n m u u' hu hu' (hus ▸ hsc) (hus' ▸ hsc')
  · intro n v c hv hstack hc card hcard
    obtain ⟨u, hu, _, hs, hl⟩ := hold hv
    simp only [hsigned, hoffered] at hc ⊢
    exact hx.offered n u c hu (hs ▸ hstack) hc card (hl ▸ hcard)
  · intro n c hlc
    rw [ClientApp.putWallet, List.length_set]
    rcases hlast with heq | ⟨c', heq⟩
    · exact hx.opened n c (heq ▸ hlc)
    · obtain ⟨rfl, _⟩ : number = n ∧ c' = c := by simpa [heq] using hlc
      exact hlt
  · intro c hc
    exact hmono (hx.writer c (hwriter ▸ hc))
  · intro n c v m v' hlc hv hv' hsc
    obtain rfl : m = number := by
      obtain ⟨u', hu', hus', _⟩ := hold hv'
      exact hx.single m number u' w hu' hw (hus' ▸ hsc) hon
    obtain rfl : v' = w' := by
      rcases getElem?_putWallet hv' with ⟨_, heq⟩ | ⟨hne, _⟩
      · exact heq
      · exact absurd rfl hne
    exact hmarked n c v hlc hv
  · intro n c v hlc hv hsc
    rcases getElem?_putWallet hv with ⟨rfl, rfl⟩ | ⟨hne, hv⟩
    · exact absurd (hsame.1.trans hon) (by simp [hsc])
    · rcases hlast with heq | ⟨c', heq⟩
      · exact hmono (hx.stored n c v (heq ▸ hlc) hv hsc)
      · obtain ⟨rfl, _⟩ : number = n ∧ c' = c := by simpa [heq] using hlc
        exact absurd rfl hne

/-- A listed card is chosen on the wallet on screen. -/
theorem Kept.choose {number : Nat} {w : Wallet} {card : StripeCard} (hx : Kept x)
    (hw : x.1.wallets[number]? = some w) (hon : w.onScreen = true) (hcard : card ∈ w.cardList) :
    Kept (x.1.putWallet number (w.choose card), x.2.choose number card) := by
  have hstack := hx.onScreen number w hw hon
  obtain ⟨c, hc⟩ := hx.present (hx.onStack number w hw hstack)
  have hoffer := hx.offered number w c hw hstack hc card hcard
  rw [CardHistory.choose, hc]
  refine hx.mark hw hon ⟨rfl, rfl, rfl⟩ hc.symm rfl (by simp) rfl (Or.inr ⟨c, rfl⟩) ?_
  intro n c' v hlc hv
  obtain ⟨rfl, rfl⟩ : number = n ∧ c = c' := by simpa using hlc
  rcases getElem?_putWallet hv with ⟨_, rfl⟩ | ⟨hne, _⟩
  · exact Or.inr ⟨card, hoffer, by simp, rfl, rfl⟩
  · exact absurd rfl hne

/-- The check marks are taken away from the wallet on screen. -/
theorem Kept.unchoose {number : Nat} {w : Wallet} (hx : Kept x)
    (hw : x.1.wallets[number]? = some w) (hon : w.onScreen = true) :
    Kept (x.1.putWallet number w.unchoose, x.2) :=
  hx.mark hw hon ⟨rfl, rfl, rfl⟩ rfl rfl (fun _ h => h) rfl (Or.inl rfl)
    fun _ _ _ _ _ => Or.inl rfl

/-- A wallet that was just made, not on screen yet. -/
theorem Kept.made (hx : Kept x) (hmain : x.1.onMain = false) :
    Kept ({ x.1 with wallets := x.1.wallets ++ [Wallet.fresh] }, x.2) := by
  have hold : ∀ {n : Nat} {v : Wallet}, (x.1.wallets ++ [Wallet.fresh])[n]? = some v →
      x.1.wallets[n]? = some v ∨ v = Wallet.fresh ∧ n = x.1.wallets.length := by
    intro n v hv
    rw [List.getElem?_append] at hv
    split at hv
    · exact Or.inl hv
    · rename_i hge
      obtain ⟨hlt, _⟩ := List.getElem?_eq_some_iff.mp hv
      simp only [List.length_singleton] at hlt
      exact Or.inr ⟨List.mem_singleton.mp (List.mem_of_getElem? hv), by omega⟩
  refine ⟨hx.present, ?_, ?_, ?_, ?_, ?_, hx.writer, ?_, ?_⟩
  · exact fun _ _ _ _ => hmain
  · intro n v hv hsc
    rcases hold hv with hv | ⟨rfl, _⟩
    · exact hx.onScreen n v hv hsc
    · rfl
  · intro n m v v' hv hv' hsc hsc'
    rcases hold hv with hv | ⟨rfl, _⟩
    · rcases hold hv' with hv' | ⟨rfl, _⟩
      · exact hx.single n m v v' hv hv' hsc hsc'
      · exact absurd hsc' (by decide)
    · exact absurd hsc (by decide)
  · intro n v c hv hstack hc card hcard
    rcases hold hv with hv | ⟨rfl, _⟩
    · exact hx.offered n v c hv hstack hc card hcard
    · simp [Wallet.fresh] at hcard
  · intro n c hlc
    have hlt := hx.opened n c hlc
    simp only [List.length_append, List.length_singleton]
    omega
  · intro n c v m v' hlc hv hv' hsc
    have hlt := hx.opened n c hlc
    rcases hold hv with hv | ⟨_, rfl⟩
    · rcases hold hv' with hv' | ⟨rfl, _⟩
      · exact hx.shown n c v m v' hlc hv hv' hsc
      · exact absurd hsc (by decide)
    · omega
  · intro n c v hlc hv hsc
    have hlt := hx.opened n c hlc
    rcases hold hv with hv | ⟨_, rfl⟩
    · exact hx.stored n c v hlc hv hsc
    · omega

/-- A wallet comes on screen while none is: it reads back what is stored. -/
theorem Kept.appear {number : Nat} {w : Wallet} {b : ClientApp} (hx : Kept x)
    (hw : x.1.wallets[number]? = some w) (hstack : w.onStack = true)
    (hfree : x.1.walletShown = false) (hshow : x.1.showWallet number w = .ok b) :
    Kept (b, x.2) := by
  have hoff : ∀ (n : Nat) (v : Wallet), x.1.wallets[n]? = some v → v.onScreen = false := by
    intro n v hv
    simpa using List.any_eq_false.mp hfree v (List.mem_of_getElem? hv)
  obtain rfl := ClientApp.showWallet_inv hshow
  have hset : ∀ {n : Nat} {v : Wallet},
      (x.1.wallets.set number (w.viewWillAppear x.1.device.defaults))[n]? = some v →
      (n = number ∧ v = w.viewWillAppear x.1.device.defaults) ∨
        (n ≠ number ∧ x.1.wallets[n]? = some v) := fun hv => getElem?_putWallet hv
  refine ⟨hx.present, ?_, ?_, ?_, ?_, ?_, hx.writer, ?_, ?_⟩
  · intro n v hv hvs
    rcases hset hv with ⟨rfl, rfl⟩ | ⟨_, hv⟩
    · exact hx.onStack n w hw hstack
    · exact hx.onStack n v hv hvs
  · intro n v hv hsc
    rcases hset hv with ⟨rfl, rfl⟩ | ⟨_, hv⟩
    · exact hstack
    · exact absurd hsc (by simp [hoff n v hv])
  · intro n m v v' hv hv' hsc hsc'
    rcases hset hv with ⟨rfl, _⟩ | ⟨_, hv⟩
    · rcases hset hv' with ⟨rfl, _⟩ | ⟨_, hv'⟩
      · rfl
      · exact absurd hsc' (by simp [hoff m v' hv'])
    · exact absurd hsc (by simp [hoff n v hv])
  · intro n v c hv hvs hc card hcard
    rcases hset hv with ⟨rfl, rfl⟩ | ⟨_, hv⟩
    · simp [Wallet.viewWillAppear] at hcard
    · exact hx.offered n v c hv hvs hc card hcard
  · intro n c hlc
    simpa [ClientApp.putWallet] using hx.opened n c hlc
  · intro n c v m v' hlc hv hv' hsc
    obtain ⟨rfl, rfl⟩ : m = number ∧ v' = w.viewWillAppear x.1.device.defaults := by
      rcases hset hv' with h | ⟨_, hv'⟩
      · exact h
      · exact absurd hsc (by simp [hoff m v' hv'])
    rcases hset hv with ⟨rfl, rfl⟩ | ⟨_, hv⟩
    · exact hx.stored n c w hlc hw (hoff n w hw)
    · exact hx.stored n c v hlc hv (hoff n v hv)
  · intro n c v hlc hv hsc
    rcases hset hv with ⟨rfl, rfl⟩ | ⟨_, hv⟩
    · exact absurd hsc (by simp [Wallet.viewWillAppear])
    · exact hx.stored n c v hlc hv hsc

/-- A wallet is left, and writes its pair. -/
theorem Kept.leave {number : Nat} {w : Wallet} (hx : Kept x)
    (hw : x.1.wallets[number]? = some w) (hon : w.onScreen = true) (popped : Bool) :
    Kept (x.1.leaveWallet number w popped, x.2.leave number) := by
  -- the wallet of the last choice and what is stored now
  have hstored : ∀ (n : Nat) (c : Int) (v : Wallet), x.2.lastChoice = some (n, c) →
      x.1.wallets[n]? = some v → x.2.Held c v.userStripeId
        ((w.viewWillDisappear x.1.device.defaults).getInt .userCardSelected) := by
    intro n c v hlc hv
    rcases w.viewWillDisappear_pair x.1.device.defaults with hnone | ⟨_, hsource⟩
    · exact Or.inl hnone
    · rw [hsource]
      exact hx.shown n c v number w hlc hv hw hon
  have hset : ∀ {n : Nat} {v : Wallet}, (x.1.wallets.set number (w.leave popped))[n]? = some v →
      (n = number ∧ v = w.leave popped) ∨ (n ≠ number ∧ x.1.wallets[n]? = some v) :=
    fun hv => getElem?_putWallet hv
  have hoff : ∀ {n : Nat} {v : Wallet}, (x.1.wallets.set number (w.leave popped))[n]? = some v →
      v.onScreen = false := by
    intro n v hv
    rcases hset hv with ⟨rfl, rfl⟩ | ⟨hne, hv⟩
    · rfl
    · rw [← Bool.not_eq_true]
      exact fun hsc => hne (hx.single n number v w hv hw hsc hon)
  refine ⟨hx.present, ?_, ?_, ?_, ?_, ?_, ?_, ?_, ?_⟩
  · intro n v hv hvs
    rcases hset hv with ⟨rfl, rfl⟩ | ⟨_, hv⟩
    · exact hx.onStack n w hw (hx.onScreen n w hw hon)
    · exact hx.onStack n v hv hvs
  · intro n v hv hsc
    exact absurd hsc (by simp [hoff hv])
  · intro n m v v' hv hv' hsc hsc'
    exact absurd hsc (by simp [hoff hv])
  · intro n v c hv hvs hc card hcard
    rcases hset hv with ⟨rfl, rfl⟩ | ⟨_, hv⟩
    · exact hx.offered n w c hw (hx.onScreen n w hw hon) hc card hcard
    · exact hx.offered n v c hv hvs hc card hcard
  · intro n c hlc
    simpa [ClientApp.leaveWallet, ClientApp.putWallet] using hx.opened n c hlc
  · intro c hc
    cases hlc : x.2.lastChoice with
    | none => simp [CardHistory.leave, hlc] at hc
    | some choice =>
      obtain ⟨n, c'⟩ := choice
      simp only [CardHistory.leave, hlc] at hc
      split at hc
      · rename_i heq
        obtain rfl : c' = c := Option.some.inj hc
        rcases w.viewWillDisappear_pair x.1.device.defaults with hnone | ⟨hstripe, hsource⟩
        · exact Or.inl hnone
        · have hheld := hx.shown number c' w number w (heq ▸ hlc) hw hw hon
          rw [← hstripe, ← hsource] at hheld
          exact hheld
      · exact absurd hc (by simp)
  · intro n c v m v' hlc hv hv' hsc
    exact absurd hsc (by simp [hoff hv'])
  · intro n c v hlc hv hsc
    rcases hset hv with ⟨rfl, rfl⟩ | ⟨_, hv⟩
    · exact hstored n c w hlc hw
    · exact hstored n c v hlc hv

/-! ## 3. One step -/

/-- Nobody is signed in, and every wallet is gone. -/
theorem Kept.logout (hx : Kept x) :
    Kept (x.1.logout, { x.2 with signedIn := none, lastChoice := none }) := by
  have hgone : ∀ {n : Nat} {v : Wallet}, x.1.logout.wallets[n]? = some v →
      v.onScreen = false ∧ v.onStack = false := by
    intro n v hv
    obtain ⟨w, _, rfl⟩ := List.mem_map.mp (List.mem_of_getElem? hv)
    simp [Wallet.leave]
  refine ⟨?_, ?_, ?_, ?_, ?_, ?_, hx.writer, ?_, ?_⟩
  · intro hmain
    exact absurd hmain (by simp [ClientApp.logout])
  · intro n v hv hvs
    exact absurd hvs (by simp [(hgone hv).2])
  · intro n v hv hsc
    exact absurd hsc (by simp [(hgone hv).1])
  · intro n m v v' hv _ hsc
    exact absurd hsc (by simp [(hgone hv).1])
  · intro n v c hv hvs
    exact absurd hvs (by simp [(hgone hv).2])
  · intro n c hlc
    exact absurd hlc (by simp)
  · intro n c v m v' hlc
    exact absurd hlc (by simp)
  · intro n c v hlc
    exact absurd hlc (by simp)

/-- Somebody signs in: no wallet is left, and the stored pair stays as it is. -/
theorem Kept.signIn {b : ClientApp} {id : Int} (hx : Kept x) (hmain : x.1.onMain = true)
    (hwallets : b.wallets = x.1.wallets)
    (hstripe : b.device.defaults.getInt .userStripeId = x.1.device.defaults.getInt .userStripeId)
    (hcard : b.device.defaults.getInt .userCardSelected
      = x.1.device.defaults.getInt .userCardSelected) :
    Kept (b, { x.2 with signedIn := some id }) := by
  have hgone : ∀ {n : Nat} {v : Wallet}, x.1.wallets[n]? = some v → v.onStack = false := by
    intro n v hv
    rw [← Bool.not_eq_true]
    intro hvs
    exact absurd (hx.onStack n v hv hvs) (by simp [hmain])
  have hoff : ∀ {n : Nat} {v : Wallet}, x.1.wallets[n]? = some v → v.onScreen = false := by
    intro n v hv
    rw [← Bool.not_eq_true]
    intro hsc
    exact absurd (hx.onScreen n v hv hsc) (by simp [hgone hv])
  refine ⟨fun _ => ⟨id, rfl⟩, ?_, ?_, ?_, ?_, ?_, ?_, ?_, ?_⟩
  · intro n v hv hvs
    rw [hwallets] at hv
    exact absurd hvs (by simp [hgone hv])
  · intro n v hv hsc
    rw [hwallets] at hv
    exact absurd hsc (by simp [hoff hv])
  · intro n m v v' hv _ hsc
    rw [hwallets] at hv
    exact absurd hsc (by simp [hoff hv])
  · intro n v c hv hvs
    rw [hwallets] at hv
    exact absurd hvs (by simp [hgone hv])
  · simpa only [hwallets] using hx.opened
  · intro c hc
    rw [hstripe, hcard]
    exact hx.writer c hc
  · intro n c w m v hlc hv hv' hsc
    rw [hwallets] at hv'
    exact absurd hsc (by simp [hoff hv'])
  · intro n c w hlc hv hsc
    rw [hwallets] at hv
    rw [hcard]
    exact hx.stored n c w hlc hv hsc

theorem getInt_set_dict {u : UserDefaults} {d : Dict} {key : DefaultsKey}
    (h : key ≠ .userProfileInfoDef) :
    (u.set .userProfileInfoDef (.dict d)).getInt key = u.getInt key := by
  simp [UserDefaults.getInt, h]

/-- The list of cards arrives: it is offered, unless its wallet is gone. -/
theorem Kept.cardList {call number : Nat} {reply : Option Dict} {b : ClientApp} (hx : Kept x)
    (hcall : x.1.cardCalls.waiting call = some number)
    (hanswer : { x.1 with cardCalls := x.1.cardCalls.retire call }.answerWallet number
      (fun w => w.cardListReply reply) = .ok b) :
    Kept (b, note x.2 x.1 (.cardListReply call reply) b) := by
  have hret : Kept ({ x.1 with cardCalls := x.1.cardCalls.retire call }, x.2) :=
    hx.quiet rfl rfl rfl rfl
  rcases ClientApp.answerWallet_inv hanswer with ⟨hnone, rfl⟩ | ⟨w, w', hw, hlist, rfl⟩
  · have hnone' : x.1.wallets[number]? = none := hnone
    simp only [note, hcall, Option.bind_some, hnone']
    exact hret
  · have hw₀ : x.1.wallets[number]? = some w := hw
    have hlt : number < x.1.wallets.length := (List.getElem?_eq_some_iff.mp hw₀).1
    obtain ⟨cards, rfl⟩ : ∃ cards, w' = { w with cardList := cards } := by
      rcases Wallet.cardListReply_inv hlist with rfl | ⟨cards, rfl⟩
      · exact ⟨w'.cardList, rfl⟩
      · exact ⟨cards, rfl⟩
    simp only [note, hcall, Option.bind_some, ClientApp.putWallet, List.getElem?_set_self hlt]
    split
    · rename_i hstack
      obtain ⟨c, hc⟩ := hx.present (hx.onStack number w hw₀ hstack)
      rw [offer, hc]
      refine hret.relist hw (by simp) (by simp [hc]) ?_
      intro c' _ hc' card hcard
      obtain rfl : c = c' := by simpa [hc] using hc'
      simp [hcard]
    · rename_i hgone
      exact hret.relist hw (fun _ h => h) rfl fun c hstack => absurd hstack hgone

/-- A card is taken off a list. -/
theorem Kept.deleteReply {call number row : Nat} {success : Bool} {b : ClientApp} (hx : Kept x)
    (hanswer : { x.1 with deleteCalls := x.1.deleteCalls.retire call }.answerWallet number
      (fun w => w.deleteReply row success) = .ok b) : Kept (b, x.2) := by
  have hret : Kept ({ x.1 with deleteCalls := x.1.deleteCalls.retire call }, x.2) :=
    hx.quiet rfl rfl rfl rfl
  rcases ClientApp.answerWallet_inv hanswer with ⟨_, rfl⟩ | ⟨w, w', hw, hdelete, rfl⟩
  · exact hret
  · have hold := fun c hstack hc => hret.offered number w c hw hstack hc
    rcases Wallet.deleteReply_inv hdelete with rfl | rfl
    · exact hret.relist (w := w') hw (fun _ h => h) rfl hold
    · refine hret.relist hw (fun _ h => h) rfl ?_
      intro c hstack hc card hcard
      exact hold c hstack hc card (List.mem_of_mem_eraseIdx hcard)

/-- **The invariant survives every step.** -/
theorem Kept.step {e : AppEvent} (hx : Kept x)
    (hstep : ((ClientApp.machine distance).withHistory note).Step x e y) : Kept y := by
  obtain ⟨a, h⟩ := x
  obtain ⟨b, h'⟩ := y
  obtain ⟨hab, hnote⟩ := Machine.withHistory_step.mp hstep
  obtain rfl : h' = note h a e b := hnote
  have hof : ClientApp.StepOf distance a b e := ClientApp.step_inv hab
  cases e with
  | session i e =>
    obtain ⟨hown, s, t, hs, hst, rfl⟩ := hof
    have hdefaults : t.device.defaults = a.device.defaults :=
      ClientSession.step_defaults hst hown
    exact hx.quiet rfl rfl (congrArg (·.getInt .userStripeId) hdefaults)
      (congrArg (·.getInt .userCardSelected) hdefaults)
  | signInReply reply =>
    rcases ClientApp.signInReply_inv hof.2 with ⟨hno, rfl⟩ | ⟨id, _, hid, hyes, rfl, rfl⟩
    · rw [note, if_neg hno]
      exact hx
    · rw [note, if_pos hyes, hid]
      exact hx.signIn hof.1 rfl (by simp [UserDefaults.setBool, UserDefaults.getInt])
        (by simp [UserDefaults.setBool, UserDefaults.getInt])
  | logout =>
    obtain ⟨_, rfl⟩ := hof
    exact hx.logout
  | pushDashboard =>
    obtain ⟨_, rfl⟩ := ClientApp.pushDashboard_inv hof.2
    exact hx.quiet rfl rfl rfl rfl
  | profileReply call reply =>
    rcases ClientApp.profileReply_inv hof with rfl | ⟨profile, _, _, rfl⟩
    · exact hx.quiet rfl rfl rfl rfl
    · exact hx.quiet rfl rfl (getInt_set_dict (by decide)) (getInt_set_dict (by decide))
  | nextPressed kits =>
    obtain ⟨_, _, _, ⟨rfl, _⟩ | ⟨_, _, _, _, _, rfl⟩⟩ := ClientApp.nextPressed_inv hof
    · exact hx.quiet rfl rfl rfl rfl
    · exact hx.quiet rfl rfl rfl rfl
  | openWallet =>
    obtain ⟨hmain, hfree, hopen⟩ := hof
    have hlisted : (a.wallets ++ [Wallet.fresh])[a.wallets.length]? = some Wallet.fresh :=
      List.getElem?_concat_length
    refine (hx.made hmain).appear hlisted rfl ?_ hopen
    simpa [ClientApp.walletShown, Wallet.fresh] using hfree
  | uncoverWallet number =>
    obtain ⟨w, hw, hstack, hfree, hshow⟩ := hof
    exact hx.appear hw hstack hfree hshow
  | leaveWallet number popped =>
    obtain ⟨w, hw, hon, rfl⟩ := hof
    exact hx.leave hw hon popped
  | cardListReply call reply =>
    obtain ⟨number, hcall, hanswer⟩ := hof
    exact hx.cardList hcall hanswer
  | selectRow number row =>
    obtain ⟨w, w', hw, hon, hselect, rfl⟩ := hof
    obtain ⟨card, hcard, rfl⟩ := Wallet.didSelectRow_inv hselect
    simp only [note, hw, Option.bind_some, hcard]
    exact hx.choose hw hon (List.mem_of_getElem? hcard)
  | deleteRow number row =>
    obtain ⟨w, hw, hon, hdelete⟩ := hof
    obtain ⟨w', hcommit, rfl⟩ := ClientApp.deleteRow_inv hdelete
    simp only [note, hw, Option.bind_some]
    rcases Wallet.commitDelete_inv hcommit with ⟨hfall, rfl | rfl⟩ | ⟨card, hcard, hfall, rfl⟩
    · rw [hfall]
      have hsame := hx.relist (w := w') hw (fun _ h => h) rfl
        fun c hstack hc card hcard => hx.offered number w' c hw hstack hc card hcard
      exact hsame.quiet rfl rfl rfl rfl
    · rw [hfall]
      exact (hx.unchoose hw hon).quiet rfl rfl rfl rfl
    · rw [hfall]
      exact (hx.choose hw hon hcard).quiet rfl rfl rfl rfl
  | deleteReply call success =>
    obtain ⟨number, row, hanswer⟩ := hof
    exact hx.deleteReply hanswer
  | addCardFailed =>
    obtain rfl : b = a.addCardFailed := hof
    exact hx.quiet rfl rfl (UserDefaults.getInt_setInt_of_ne _ _ (by decide))
      (UserDefaults.getInt_setInt_of_ne _ _ (by decide))

/-! ## 4. The requests -/

/-- Every `requested` body charges a card its own client was offered and chose. -/
def CardsOwned (x : ClientApp × CardHistory) : Prop :=
  ∀ s ∈ x.1.sessions, ∀ body ∈ s.requests, body.requestStatus = Request_Status.requested →
    ∃ customerId sourceId, body.clientStripeCustomerId = some customerId ∧
      body.clientStripeCustomerSourceId = some sourceId ∧
      x.2.Owned body.clientId customerId sourceId

/-- A request is posted only by the client who chose a card on the wallet that was left last. -/
def LeftByClient (x : ClientApp × CardHistory) : AppEvent → Prop
  | .session i .sendRequest => ∀ s, x.1.sessions[i]? = some s →
      s.dashboard.sendRequest x.1.device = .post →
        ∃ c, x.2.writer = some c ∧ x.1.device.userID .clientApp = .ok c
  | _ => True

/-- Nothing that was offered or chosen is forgotten. -/
theorem note_subset (h : CardHistory) (a : ClientApp) (e : AppEvent) (b : ClientApp) :
    h.offered ⊆ (note h a e b).offered ∧ h.chosen ⊆ (note h a e b).chosen := by
  have hchoose : ∀ number card, h.offered ⊆ (h.choose number card).offered ∧
      h.chosen ⊆ (h.choose number card).chosen := by
    intro number card
    unfold choose
    split
    · simp
    · simp
  unfold note
  split
  · split
    · simp
    · simp
  · simp
  · split
    · split
      · unfold offer
        split
        · simp
        · simp
      · simp
    · simp
  · split
    · exact hchoose _ _
    · simp
  · split
    · exact hchoose _ _
    · simp
  · simp [leave]
  · simp

theorem CardsOwned.step {e : AppEvent} (ho : CardsOwned x) (hx : Kept x)
    (hleft : LeftByClient x e)
    (hstep : ((ClientApp.machine distance).withHistory note).Step x e y) : CardsOwned y := by
  obtain ⟨hab, hnote⟩ := Machine.withHistory_step.mp hstep
  have hsub := note_subset x.2 x.1 e y.1
  rw [← hnote] at hsub
  intro t ht body hbody hreq
  rcases ClientApp.requested_inv (ClientApp.step_inv hab) ht hbody hreq with
    ⟨s, hs, hold⟩ | ⟨i, s, rfl, hs, hposts⟩
  · obtain ⟨customerId, sourceId, hcustomer, hsource, howned⟩ := ho s hs body hold hreq
    exact ⟨customerId, sourceId, hcustomer, hsource, howned.mono hsub.1 hsub.2⟩
  · obtain ⟨c, hwriter, hclient⟩ := hleft s hs hposts.outcome
    obtain rfl : c = body.clientId := by
      rw [hposts.owner] at hclient
      exact (Except.ok.inj hclient).symm
    have hcard : x.1.device.defaults.getInt .userCardSelected ≠ -1 := by
      intro hnone
      have hout := hposts.outcome
      simp only [ClientDashboard.sendRequest, if_pos hnone] at hout
      split at hout
      · exact absurd hout (by simp)
      · exact absurd hout (by simp)
    have howned := (hx.writer _ hwriter).resolve_left hcard
    exact ⟨_, _, hposts.customer, hposts.source, howned.mono hsub.1 hsub.2⟩

/-- **If every request is posted by the client whose choice is stored, every request charges
the card of its own client.**  From any device on which nobody is signed in. -/
theorem owned_if_left (device : Device)
    (hrun : ((ClientApp.machine distance).withHistory note).RunWhere LeftByClient
      (ClientApp.launch device true, {}) x) : CardsOwned x := by
  have h₀ : Kept (ClientApp.launch device true, {}) ∧
      CardsOwned (ClientApp.launch device true, {}) := by
    refine ⟨⟨?_, ?_, ?_, ?_, ?_, ?_, ?_, ?_, ?_⟩, ?_⟩
    · intro hmain
      exact absurd hmain (by simp [ClientApp.launch])
    · simp [ClientApp.launch]
    · simp [ClientApp.launch]
    · simp [ClientApp.launch]
    · simp [ClientApp.launch]
    · simp
    · simp
    · simp
    · simp
    · intro s hs
      exact absurd hs (by simp [ClientApp.launch])
  have hI : Kept x ∧ CardsOwned x := by
    refine hrun.invariant (I := fun x => Kept x ∧ CardsOwned x) h₀ ?_
    intro x e y hI hC hstep
    exact ⟨hI.1.step hstep, hI.2.step hI.1 hC hstep⟩
  exact hI.2

/-! ## 5. Two runs -/

/-- Client `id` signs in and finds provider 16 from the dashboard with number `i`. -/
def signInEvents (id : Int) (i : Nat) : List AppEvent :=
  [.signInReply [("Success", .ofInt 1), ("ClientId", .ofInt id)],
    .session i (.tracingLocation ⟨40, -73⟩),
    .session i (.onlineProviderList 0 (some [("OnlineProviderList",
      .arr [.obj (ClientDashboard.statusOf 16 "40.001" "-73" "connected")])]))]

/-- The only card is chosen on a wallet, and the wallet is left. -/
def chooseEvents : List AppEvent :=
  [.openWallet,
    .cardListReply 0 (some [("SourceCardList", .arr [.obj
      [("ClientStripeCustomerId", .ofInt 3), ("ClientStripeCustomerSourceId", .ofInt 7)]])]),
    .selectRow 0 0, .leaveWallet 0 true]

/-- The test of `LeftByClient`. -/
def isLeftByClient (x : ClientApp × CardHistory) : AppEvent → Bool
  | .session _ .sendRequest =>
    match x.2.writer, x.1.device.userID .clientApp with
    | some c, .ok c' => c == c'
    | _, _ => false
  | _ => true

theorem leftByClient_of_isLeftByClient {e : AppEvent} (h : isLeftByClient x e = true) :
    LeftByClient x e := by
  cases e with
  | session i e =>
    cases e with
    | sendRequest =>
      intro s _ _
      simp only [isLeftByClient] at h
      split at h
      · rename_i c c' hwriter hclient
        obtain rfl : c = c' := by simpa using h
        exact ⟨c, hwriter, hclient⟩
      · exact absurd h (by simp)
    | _ => trivial
  | _ => trivial

/-- Some body of client `id` was posted. -/
def hasPosted (id : Int) (x : ClientApp × CardHistory) : Bool :=
  x.1.sessions.any fun s => s.requests.any fun body =>
    body.clientId == id && body.requestStatus == Request_Status.requested

/-- Client 24 chooses the card and requests. -/
theorem owned_if_left_chosen :
    ∃ x : ClientApp × CardHistory, hasPosted 24 x = true ∧ CardsOwned x := by
  obtain ⟨x, hrun, hposted⟩ := Machine.exists_run_of_replay
    ((ClientApp.machine sampleDistance).withHistory note) isLeftByClient
    (ClientApp.launch { defaults := .empty, appDelegate := {} } true, {})
    (signInEvents 24 0 ++ chooseEvents ++ [.session 0 .sendRequest]) (hasPosted 24)
    (fun _ _ => leftByClient_of_isLeftByClient) (by decide +kernel)
  exact ⟨x, hposted, owned_if_left _ hrun⟩

/-- **The next client pays with the card of the one before.**  Client 24 chooses a card and
logs out; client 25 signs in and requests. -/
theorem card_of_the_last_client :
    ¬∀ (device : Device) (x : ClientApp × CardHistory),
      ((ClientApp.machine sampleDistance).withHistory note).Run
        (ClientApp.launch device true, {}) x → CardsOwned x := by
  intro hall
  obtain ⟨x, hrun, htest⟩ := Machine.exists_run_of_replay
    ((ClientApp.machine sampleDistance).withHistory note) (fun _ _ => true)
    (ClientApp.launch { defaults := .empty, appDelegate := {} } true, {})
    (signInEvents 24 0 ++ chooseEvents ++ [.logout] ++ signInEvents 25 1
      ++ [.session 1 .sendRequest])
    (fun x => hasPosted 25 x && x.2.chosen.all fun choice => choice.1 != 25)
    (fun _ _ _ => trivial) (by decide +kernel)
  obtain ⟨hposted, hnone⟩ := Bool.and_eq_true_iff.mp htest
  obtain ⟨s, hs, hbodies⟩ := List.any_eq_true.mp hposted
  obtain ⟨body, hbody, hmine⟩ := List.any_eq_true.mp hbodies
  obtain ⟨hid, hreq⟩ := Bool.and_eq_true_iff.mp hmine
  obtain ⟨_, _, _, _, card, _, hchosen, _⟩ := hall _ x hrun s hs body hbody (by simpa using hreq)
  have hother := List.all_eq_true.mp hnone _ hchosen
  exact absurd hid (by simpa using hother)

end CardHistory

end WeatherAccommodation
