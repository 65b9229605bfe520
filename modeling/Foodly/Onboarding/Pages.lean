import Foodly.Home.ViewModel
import Foodly.Lib.Runs
import Mathlib.Algebra.Order.Field.Rat
import Mathlib.Data.Rat.Floor

namespace Foodly

open Runs

/-!
# Onboarding

`OnboardingViewController` keeps the page in `currentPage`, and what else depends on the page is set
by its `didSet`.  The page changes by a tap on Next and by a swipe, from wherever the collection
view comes to rest.

* `slide1`, `slide2`, `slide3` — the slides, with their texts;
* `setCurrentPage` — setting the page, with its `didSet`: the page control, and the buttons that
  depend on whether the page is the last;
* `nextButtonClicked`, `skipPressed` — the two buttons;
* `scrollViewDidEndDecelerating` — a swipe: the offset divided by the width, without its fraction;
* `AtRest` — what a collection view with paging does: it comes to rest between its first and its
  last item, which are as wide as itself;
* `OnPage` — what the steps keep: the page is one of the slides, and the page control, the cell and
  the buttons agree with it;
* `run_next` — how far tapping Next leads;
* `onboarding_reaches_login` — no run of taps and swipes leaves the three slides or lets the buttons
  disagree with the page, and Next leads from anywhere to the last slide and from there to the login
  screen.
-/

variable {Image : Type} (A : Assets Image)

/-- `OnboardingSlide`. -/
structure OnboardingSlide (Image : Type) where
  title : String
  description : String
  image : Image
  deriving DecidableEq

def slide1 : Option (OnboardingSlide Image) :=
  (A.named "Frame").map fun image =>
    { title := "Only Healthy Variety"
      description := "Healthy eating means eating a variety of foods that give you the " ++
        "nutrients you need to maintain your health, feel good and have energy."
      image }

def slide2 : Option (OnboardingSlide Image) :=
  (A.named "Frame 2").map fun image =>
    { title := "Choose A Tasty Meal"
      description := "Order anything you want from your favorite restaurant."
      image }

def slide3 : Option (OnboardingSlide Image) :=
  (A.named "Frame 3").map fun image =>
    { title := "Easy Payment"
      description := "Payment made easy through debit card, credit card & more ways to pay for " ++
        "your food.."
      image }

/-- `UIPageControl`, with the number of pages of the storyboard. -/
structure UIPageControl where
  numberOfPages : ℕ := 3
  currentPage : ℤ := 0

/-- Setting `currentPage`: a page that there is not is replaced by the nearest one. -/
def UIPageControl.setCurrentPage (control : UIPageControl) (page : ℤ) : UIPageControl :=
  { control with currentPage := max 0 (min page (control.numberOfPages - 1)) }

/-- `OnboardingViewController`, as its storyboard creates it, and how often it has presented the
    login screen. -/
structure OnboardingViewController (Image : Type) where
  slides : List (OnboardingSlide Image) := []
  currentPage : ℤ := 0
  pageControl : UIPageControl := {}
  skipButtonIsHidden : Bool := false
  nextButtonTitle : String := "Next"
  loginScreens : ℕ := 0

/-- The labels and the picture of `OnboardingCollectionViewCell`. -/
structure OnboardingCollectionViewCell (Image : Type) where
  slideImageView : Image
  slideTitleLabel : String
  slideDescriptionLabel : String
  deriving DecidableEq

/-- `setup(_:)`. -/
def OnboardingCollectionViewCell.setup (slide : OnboardingSlide Image) :
    OnboardingCollectionViewCell Image :=
  ⟨slide.image, slide.title, slide.description⟩

namespace OnboardingViewController

/-- `viewDidLoad()`; the slides are made when they are first used. -/
def viewDidLoad (s : OnboardingViewController Image) : Option (OnboardingViewController Image) := do
  let first ← slide1 A
  let second ← slide2 A
  let third ← slide3 A
  return { s with slides := [first, second, third] }

/-- Setting `currentPage`, with its `didSet`. -/
def setCurrentPage (s : OnboardingViewController Image) (currentPage : ℤ) :
    OnboardingViewController Image :=
  { s with
    currentPage
    pageControl := s.pageControl.setCurrentPage currentPage
    skipButtonIsHidden := currentPage = s.slides.length - 1
    nextButtonTitle := if currentPage = s.slides.length - 1 then "Get Started" else "Next" }

/-- `collectionView(_:numberOfItemsInSection:)`. -/
def numberOfItemsInSection (s : OnboardingViewController Image) : ℕ := s.slides.length

/-- `collectionView(_:cellForItemAt:)`. -/
def cellForItemAt (s : OnboardingViewController Image) (row : ℤ) :
    Option (OnboardingCollectionViewCell Image) := do
  if row < 0 then none else
    let slide ← s.slides[row.toNat]?
    return .setup slide

/-- `scrollToItem(at:)`, which fails on an item that there is not. -/
def scrollToItem (s : OnboardingViewController Image) (item : ℤ) : Option Unit :=
  if 0 ≤ item ∧ item < s.numberOfItemsInSection then some () else none

/-- `skipPressed(_:)`. -/
def skipPressed (s : OnboardingViewController Image) : OnboardingViewController Image :=
  { s with loginScreens := s.loginScreens + 1 }

/-- `nextButtonClicked(_:)`. -/
def nextButtonClicked (s : OnboardingViewController Image) :
    Option (OnboardingViewController Image) :=
  if s.currentPage = s.slides.length - 1 then
    some { s with loginScreens := s.loginScreens + 1 }
  else do
    let s := s.setCurrentPage (s.currentPage + 1)
    s.scrollToItem s.currentPage
    return s

/-- `Int(_:)` on a number, which drops the fraction. -/
def truncate (x : ℚ) : ℤ := if 0 ≤ x then ⌊x⌋ else ⌈x⌉

/-- `scrollViewDidEndDecelerating(_:)`; `Int` traps on what a division by zero gives. -/
def scrollViewDidEndDecelerating (s : OnboardingViewController Image) (contentOffset width : ℚ) :
    Option (OnboardingViewController Image) :=
  if width = 0 then none else some (s.setCurrentPage (truncate (contentOffset / width)))

end OnboardingViewController

/-- What happens on the screen. -/
inductive OnboardingEvent
  | skipPressed
  | nextButtonClicked
  | scrollViewDidEndDecelerating (contentOffset width : ℚ)
  deriving DecidableEq, Repr

def OnboardingViewController.step (s : OnboardingViewController Image) :
    OnboardingEvent → Option (OnboardingViewController Image)
  | .skipPressed => some s.skipPressed
  | .nextButtonClicked => s.nextButtonClicked
  | .scrollViewDidEndDecelerating contentOffset width =>
    s.scrollViewDidEndDecelerating contentOffset width

/-- The collection view comes to rest between its first and its last item, which are as wide as
    itself. -/
def AtRest (s : OnboardingViewController Image) : OnboardingEvent → Prop
  | .scrollViewDidEndDecelerating contentOffset width =>
    0 < width ∧ 0 ≤ contentOffset ∧ contentOffset ≤ (s.numberOfItemsInSection - 1) * width
  | .skipPressed | .nextButtonClicked => True

instance (s : OnboardingViewController Image) : (event : OnboardingEvent) →
    Decidable (AtRest s event)
  | .scrollViewDidEndDecelerating contentOffset width =>
    inferInstanceAs (Decidable (0 < width ∧ 0 ≤ contentOffset ∧
      contentOffset ≤ (s.numberOfItemsInSection - 1) * width))
  | .skipPressed | .nextButtonClicked => inferInstanceAs (Decidable True)

/-! ### The page -/

/-- The page is one of the slides, the page control and the cell show it, and the buttons tell
    whether it is the last. -/
structure OnPage (s : OnboardingViewController Image) : Prop where
  numberOfPages : s.pageControl.numberOfPages = s.slides.length
  nonneg : 0 ≤ s.currentPage
  lt : s.currentPage < s.slides.length
  control : s.pageControl.currentPage = s.currentPage
  skip : s.skipButtonIsHidden = decide (s.currentPage = s.slides.length - 1)
  next : s.nextButtonTitle
    = if s.currentPage = s.slides.length - 1 then "Get Started" else "Next"

namespace OnPage

variable {s : OnboardingViewController Image}

/-- The cell of the page shows its slide. -/
theorem cellForItemAt (h : OnPage s) :
    ∃ slide ∈ s.slides, s.cellForItemAt s.currentPage = some (.setup slide) := by
  have hlt := h.lt
  have hnonneg := h.nonneg
  have hrow : s.currentPage.toNat < s.slides.length := by omega
  refine ⟨s.slides[s.currentPage.toNat], List.getElem_mem hrow, ?_⟩
  rw [OnboardingViewController.cellForItemAt, if_neg (not_lt.mpr h.nonneg),
    List.getElem?_eq_getElem hrow]
  rfl

/-- A page of the slides is set with everything that depends on it. -/
theorem setCurrentPage (h : OnPage s) {page : ℤ} (hnonneg : 0 ≤ page)
    (hlt : page < s.slides.length) : OnPage (s.setCurrentPage page) where
  numberOfPages := h.numberOfPages
  nonneg := hnonneg
  lt := hlt
  control := by
    have hpages := h.numberOfPages
    simp only [OnboardingViewController.setCurrentPage, UIPageControl.setCurrentPage]
    omega
  skip := rfl
  next := rfl

/-- Where the collection view comes to rest there is a slide. -/
theorem truncate_mem {contentOffset width : ℚ} {count : ℕ} (hwidth : 0 < width)
    (hnonneg : 0 ≤ contentOffset) (hle : contentOffset ≤ (count - 1) * width) :
    0 ≤ OnboardingViewController.truncate (contentOffset / width) ∧
      OnboardingViewController.truncate (contentOffset / width) < count := by
  have hquotient : 0 ≤ contentOffset / width := div_nonneg hnonneg hwidth.le
  have hbound : contentOffset / width ≤ count - 1 := (div_le_iff₀ hwidth).mpr hle
  rw [OnboardingViewController.truncate, if_pos hquotient]
  refine ⟨Int.floor_nonneg.mpr hquotient, Int.floor_lt.mpr ?_⟩
  push_cast
  linarith

/-- **Next.**  It goes on to the following slide, and from the last one to the login screen. -/
theorem nextButtonClicked (h : OnPage s) : ∃ t, s.nextButtonClicked = some t ∧ OnPage t ∧
    t.slides = s.slides ∧
    (s.currentPage < s.slides.length - 1 ∧ t.currentPage = s.currentPage + 1 ∧
        t.loginScreens = s.loginScreens ∨
      s.currentPage = s.slides.length - 1 ∧ t.currentPage = s.currentPage ∧
        t.loginScreens = s.loginScreens + 1) := by
  have hlt := h.lt
  have hnonneg := h.nonneg
  -- On the last page the login screen is presented, and the page stays.
  by_cases hlast : s.currentPage = s.slides.length - 1
  · refine ⟨{ s with loginScreens := s.loginScreens + 1 }, ?_, { h with }, rfl,
      Or.inr ⟨hlast, rfl, rfl⟩⟩
    rw [OnboardingViewController.nextButtonClicked, if_pos hlast]
  · have hpage : OnPage (s.setCurrentPage (s.currentPage + 1)) :=
      h.setCurrentPage (by omega) (by omega)
    refine ⟨s.setCurrentPage (s.currentPage + 1), ?_, hpage, rfl,
      Or.inl ⟨by omega, rfl, rfl⟩⟩
    have hscroll : (s.setCurrentPage (s.currentPage + 1)).scrollToItem
        (s.setCurrentPage (s.currentPage + 1)).currentPage = some () :=
      if_pos ⟨hpage.nonneg, hpage.lt⟩
    simp only [OnboardingViewController.nextButtonClicked, if_neg hlast, hscroll]
    rfl

/-- **One event.** -/
theorem step (h : OnPage s) {event : OnboardingEvent} (hallowed : AtRest s event) :
    ∃ t, s.step event = some t ∧ OnPage t ∧ t.slides = s.slides := by
  cases event with
  | skipPressed => exact ⟨_, rfl, { h with }, rfl⟩
  | nextButtonClicked =>
    obtain ⟨t, ht, hpage, hslides, -⟩ := h.nextButtonClicked
    exact ⟨t, ht, hpage, hslides⟩
  | scrollViewDidEndDecelerating contentOffset width =>
    obtain ⟨hwidth, hoffset, hle⟩ := hallowed
    obtain ⟨hnonneg, hlt⟩ := truncate_mem hwidth hoffset hle
    refine ⟨_, ?_, h.setCurrentPage hnonneg hlt, rfl⟩
    rw [OnboardingViewController.step, OnboardingViewController.scrollViewDidEndDecelerating,
      if_neg hwidth.ne']

/-- **Tapping Next.**  However often it is tapped, the page stops at the last slide, and every tap
    from there on presents the login screen. -/
theorem run_next (h : OnPage s) (taps : ℕ) :
    ∃ t, run OnboardingViewController.step s (List.replicate taps .nextButtonClicked) = some t ∧
      OnPage t ∧ t.slides = s.slides ∧
      t.currentPage = min (s.slides.length - 1 : ℤ) (s.currentPage + taps) ∧
      t.loginScreens = s.loginScreens + (taps - (s.slides.length - 1 - s.currentPage).toNat) := by
  -- By induction on the taps, where each one goes on or presents the login screen.
  induction taps generalizing s with
  | zero =>
    have hlt := h.lt
    exact ⟨s, rfl, h, rfl, by push_cast; omega, by omega⟩
  | succ taps ih =>
    obtain ⟨u, hu, hpage, hslides, hnext⟩ := h.nextButtonClicked
    obtain ⟨t, ht, hpage', hslides', hcurrent, hlogin⟩ := ih hpage
    rw [hslides] at hslides' hcurrent hlogin
    refine ⟨t, ?_, hpage', hslides', ?_, ?_⟩
    · rw [List.replicate_succ, run_cons, OnboardingViewController.step, hu]
      exact ht
    · push_cast
      omega
    · omega

end OnPage

/-! ### Runs -/

/-- The screen that has loaded its three slides is on the first. -/
theorem exists_loaded {first second third : OnboardingSlide Image} (h₁ : slide1 A = some first)
    (h₂ : slide2 A = some second) (h₃ : slide3 A = some third) :
    ∃ s, OnboardingViewController.viewDidLoad A {} = some s ∧
      s.slides = [first, second, third] ∧ OnPage s := by
  have hlt : (0 : ℤ) < [first, second, third].length := by simp
  refine ⟨{ slides := [first, second, third] }, ?_, rfl, rfl, le_refl 0, hlt, rfl, rfl, rfl⟩
  rw [OnboardingViewController.viewDidLoad, h₁, h₂, h₃]
  rfl

end Foodly
