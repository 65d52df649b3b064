import DiagnosticRepair.Text.Basic

namespace DiagnosticRepair.Conventions

def namedImport (keyword name source : Text) : Text :=
  keyword ++ " \x7b " ++ name ++ " \x7d from '" ++ source ++ "';"

def reactImport : Text :=
  "import React from 'react';"

def importsByName : List (Text × Text) := [
  ("React", reactImport),
  ("useState", namedImport "import" "useState" "react"),
  ("useEffect", namedImport "import" "useEffect" "react"),
  ("useCallback", namedImport "import" "useCallback" "react"),
  ("useMemo", namedImport "import" "useMemo" "react"),
  ("useRef", namedImport "import" "useRef" "react"),
  ("FC", namedImport "import type" "FC" "react"),
  ("ReactNode", namedImport "import type" "ReactNode" "react"),
  ("Component", namedImport "import" "Component" "react"),
  ("cn", namedImport "import" "cn" "@/lib/utils"),
  ("clsx", "import clsx from 'clsx';"),
  ("cva", namedImport "import" "cva" "class-variance-authority")]

def importsByNamespace : List (Text × Text) := [
  ("React", reactImport)]

def importOf? (name : Text) : Option Text :=
  importsByName.lookup name

def importOfNamespace? (name : Text) : Option Text :=
  importsByNamespace.lookup name

def aliases : List (Text × Text) := [
  ("@/components", "./app/_components"),
  ("@/lib", "./app/_lib"),
  ("@/hooks", "./app/_hooks"),
  ("@/utils", "./app/_lib/utils"),
  ("@/types", "./app/_types"),
  ("@/constants", "./app/_constants")]

def testingLibrary : Text :=
  "@testing-library/react"

def matcherImport : Text :=
  "import '@testing-library/jest-dom';"

def elementMatchers : List Text := [
  "toBeInTheDocument",
  "toHaveClass",
  "toHaveAttribute",
  "toHaveTextContent",
  "toBeDisabled",
  "toBeEnabled",
  "toBeVisible",
  "toHaveValue"]

end DiagnosticRepair.Conventions
