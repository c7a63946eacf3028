import InferenceBench.Command.Arguments
import InferenceBench.Command.System
import InferenceBench.Pricing.Update
import InferenceBench.Text.Quoted

/-! # Updating a pricing page

The program that takes the prices of a model from the results of a benchmark. -/

namespace InferenceBench.Command

open Json Pricing

structure UpdatePricing where
  results : String
  page : String
  dryRun : Bool
  deriving Repr, DecidableEq

namespace UpdatePricing

def options : List OptionSpec :=
  [⟨"results", .single .path, some "BENCH_RESULTS_PATH"⟩, ⟨"html", .single .path, some "HTML_PATH"⟩,
    ⟨"dry-run", .flag, none⟩]

def ofGiven (given : Given) : UpdatePricing :=
  { results := (given.text? "results").getD "bench_results.json"
    page := (given.text? "html").getD "docs/index.html"
    dryRun := given.isGiven "dry-run" }

/-- Why a page is not updated. -/
inductive PageError where
  | missing (path : String)
  | noEntry (model : List Char) (path : String)
  | lostEntry (key : List Char)
  deriving Repr, DecidableEq

def PageError.message (error : PageError) : String :=
  String.ofList <| match error with
    | .missing path => "HTML file not found: ".toList ++ path.toList
    | .noEntry model path =>
      "could not find a MODELS entry for backend name ".toList ++ Text.quoted model ++
        " in ".toList ++ path.toList
    | .lostEntry key =>
      "model entry ".toList ++ Text.quoted key ++ " disappeared from the page".toList

/-- The model that the results are about, as it is served. -/
def servedModel (results : Value) : List Char :=
  match (results.field? "model").bind Value.asText? with
  | some model => model.toList
  | none => []

/-- The prices that were found, as they are shown on the console. -/
def pricesText (command : UpdatePricing) (model : List Char) (prices : Prices) : List Char :=
  let dollars (x : Float) : List Char := '$' :: Numeral.fixed 2 x
  ["Loaded benchmark results from: ".toList ++ command.results.toList,
    "  Model: ".toList ++ model,
    "  Input price (per 1M tokens):  ".toList ++ dollars prices.input] ++
  (match prices.cachedInput with
    | some cached => ["  Cached input price (per 1M tokens): ".toList ++ dollars cached]
    | none => []) ++
  ["  Output price (per 1M tokens): ".toList ++ dollars prices.output] |>.flatMap (· ++ ['\n'])

variable {m : Type → Type} [Monad m]

/-- Writes the page, or shows what would be written. -/
def finish (command : UpdatePricing) (system : System m) (key page updated : List Char) :
    Program m Verdict := do
  if updated = page then
    system.sayLine "No changes made (pricing already up to date)".toList
  else if command.dryRun then
    system.sayLine "\n=== Dry run - changes that would be made ===".toList
    if let some text := modelText? key updated then
      system.sayLine text
  else
    system.save "failed to write " command.page updated
    system.sayLine ("\nUpdated ".toList ++ command.page.toList ++
      " with new pricing for model '".toList ++ key ++ ['\''])
  pure .success

/-- Updates the page with these prices. -/
def revise (command : UpdatePricing) (system : System m) (model : List Char) (prices : Prices) :
    Program m Verdict := do
  let page ← match (← system.read command.page).bind Utf8.decode? with
    | some page => pure page
    | none => throw (PageError.missing command.page).message
  match findKey? model page with
  | none => throw (PageError.noEntry model command.page).message
  | some key =>
    system.sayLine ("  Matched model key: ".toList ++ key)
    match reprice? key prices page with
    | none => throw (PageError.lostEntry key).message
    | some updated => command.finish system key page updated

def run (command : UpdatePricing) (system : System m) : Program m Verdict := do
  let results ← system.load command.results
  let model := servedModel results
  let prices ← orStop PricesError.message (Prices.ofResults results)
  system.say (command.pricesText model prices)
  command.revise system model prices

end UpdatePricing

end InferenceBench.Command
