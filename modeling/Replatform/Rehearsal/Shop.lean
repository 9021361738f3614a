import Replatform.Rehearsal.Stage

/-!
# The Shop

A small legacy shop and a script that migrates it, to rehearse with.

## Main definitions

* `Shelf.shop`: The legacy files.
* `Script.shop`: The answers.
-/

namespace Replatform

/-- A legacy shop. -/
def Shelf.shop : Shelf where
  files := Table.ofList [
    ("README.md", "# Legacy Shop\n\nA jQuery storefront with a cart."),
    ("index.html",
      "<html><body><div id=\"app\"></div><script src=\"js/app.js\"></script></body></html>"),
    ("js/app.js",
      "import \x7b fetchProducts \x7d from './api';\nimport \x7b Cart \x7d from './cart';\n" ++
      "$(function () \x7b fetchProducts().then(render); \x7d);"),
    ("js/api.js", "export function fetchProducts() \x7b return $.getJSON('/api/products'); \x7d"),
    ("js/cart.js",
      "import \x7b fetchProducts \x7d from './api';\nexport function Cart() \x7b this.items = []; \x7d"),
    ("css/style.css", "body \x7b font-family: sans-serif; \x7d"),
    ("vendor/jquery.min.js", "/*! jQuery v1.12.4 */")]

/-- Answers that make a consistent project of the legacy shop. -/
def Script.shop : Script where
  analysis :=
    "\x7b\"architecture\":\"Single page with REST calls\",\"complexity\":\"Medium\"," ++
    "\"dependencies\":[\"jquery\"],\"mappings\":[\x7b\"confidence\":0.9," ++
    "\"sourcePath\":\"js/app.js\",\"targetPath\":\"src/App.tsx\"\x7d]," ++
    "\"patterns\":[\"module pattern\",\"DOM manipulation\"]," ++
    "\"recommendedTarget\":\"React + TypeScript\",\"risks\":[\"global state in cart\"]," ++
    "\"sourceFramework\":\"jQuery\",\"summary\":\"jQuery storefront with product listing and cart\"\x7d"
  layout :=
    "\x7b\"files\":[\"package.json\",\"src/App.tsx\",\"src/api/client.ts\",\"src/cart/cart.ts\"," ++
    "\"src/styles.css\"]\x7d"
  image := some { mimeType := "image/png", data := "iVBORw0KGgo=" }
  files := Table.ofList [
    ("package.json", "\x7b \"name\": \"shop\" \x7d\n"),
    ("src/App.tsx",
      "```tsx\nimport \x7b fetchProducts \x7d from './api/client';\n" ++
      "import \x7b Cart \x7d from './cart/cart';\n" ++
      "export default function App() \x7b return null; \x7d\n```"),
    ("src/api/client.ts",
      "export async function fetchProducts() \x7b return fetch('/api/products'); \x7d\n"),
    ("src/cart/cart.ts",
      "import \x7b fetchProducts \x7d from '../api/client';\n" ++
      "export class Cart \x7b items: string[] = []; \x7d\n"),
    ("src/styles.css", "body \x7b font-family: sans-serif; \x7d\n")]

end Replatform
